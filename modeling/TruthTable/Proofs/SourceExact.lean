import TruthTable.CommandLine

/-!
# A text is the same wherever it comes from

`sources_agree`: bytes that encode a text are parsed as the text itself, and the
command line answers alike to a file with these bytes, to these bytes on standard
input and to the text as an argument, and to nothing but that text. Bytes that
encode no text are refused as a whole, in every mode and before anything is
printed.
-/

namespace TruthTable

variable {bytes : ByteArray}

theorem decode_utf8Encode (text : List Char) : decode text.utf8Encode = .ok (.ofList text) := by
  have hvalid : text.utf8Encode.IsValidUTF8 := ⟨text, rfl⟩
  rw [decode, String.fromUTF8?, dif_pos hvalid]
  rfl

theorem decode_of_forall_ne (h : ∀ text : List Char, bytes ≠ text.utf8Encode) :
    decode bytes = .error .notText := by
  have hinvalid : ¬ bytes.IsValidUTF8 := fun ⟨text, htext⟩ => h text htext
  rw [decode, String.fromUTF8?, dif_neg hinvalid]

namespace CommandLine

variable {ε : Type} {accept : List String → Except ε Options} {args : List String}
variable {env : Environment} {o : Options}

theorem runWith_of_accept (h : accept args = .ok o) :
    runWith accept args env = .ok (respond o env) := by
  rw [runWith, h]
  rfl

theorem Options.parsed_eq (o : Options) (env : Environment) :
    o.parsed env = parseRead (o.text env) := by
  unfold Options.parsed Options.text
  split <;> rfl

theorem respond_of_text {read : Except ReadFailure String} (h : o.text env = read) :
    respond o env = o.answer read (parseRead read) := by
  rw [respond, o.parsed_eq, h]

theorem answer_unreadable (o : Options) (cause : ReadFailure) :
    ∃ message, o.answer (.error cause) (parseRead (.error cause)) = .failure message [] := by
  unfold Options.answer
  split
  · exact ⟨_, rfl⟩
  · split
    · exact ⟨_, rfl⟩
    · exact ⟨_, rfl⟩

end CommandLine

open CommandLine

/-- Bytes and the text that they encode are parsed alike. However arguments are
understood, the same options get the same answer for a file, for standard input
and for an argument: the one for that text. Without such a text there is an
error, whatever a part of the bytes may encode. -/
theorem sources_agree {ε : Type} (accept : List String → Except ε Options) (bytes : ByteArray) :
    (∀ text : List Char, bytes = text.utf8Encode →
      parseBytes bytes = parse (.ofList text) ∧ parseFile (some bytes) = parse (.ofList text)) ∧
    ((∀ text : List Char, bytes ≠ text.utf8Encode) →
      parseBytes bytes = .error (.unreadable .notText) ∧
        parseFile (some bytes) = .error (.unreadable .notText)) ∧
    ∀ o : Options, ∃ out,
      (∀ args env path, accept args = .ok { o with sentence := none, file := some path } →
        env.file path = some bytes → runWith accept args env = .ok out) ∧
      (∀ args env, accept args = .ok { o with sentence := none, file := none } →
        env.stdin = bytes → runWith accept args env = .ok out) ∧
      (∀ text : List Char, bytes = text.utf8Encode →
        out = o.answer (.ok (.ofList text)) (parse (.ofList text)) ∧
        ∀ args env file, accept args = .ok { o with sentence := some (.ofList text), file } →
          runWith accept args env = .ok out) ∧
      ((∀ text : List Char, bytes ≠ text.utf8Encode) → out.code = 255 ∧ out.stdout = []) := by
  refine ⟨?_, fun hnone => ?_, fun o => ?_⟩
  · rintro text rfl
    rw [parseBytes, parseFile, decodeFile, decode_utf8Encode]
    exact ⟨rfl, rfl⟩
  · rw [parseBytes, parseFile, decodeFile, decode_of_forall_ne hnone]
    exact ⟨rfl, rfl⟩
  -- what is answered depends on the options only by what they leave to read
  · refine ⟨o.answer (decode bytes) (parseRead (decode bytes)), ?_, ?_, ?_, fun hnone => ?_⟩
    · intro args env path haccept hfile
      have hread : Options.text { o with sentence := none, file := some path } env =
          decode bytes := congrArg decodeFile hfile
      rw [runWith_of_accept haccept, respond_of_text hread]
      rfl
    · rintro args env haccept rfl
      rw [runWith_of_accept haccept, respond_of_text rfl]
      rfl
    · rintro text rfl
      rw [decode_utf8Encode]
      refine ⟨rfl, fun args env file haccept => ?_⟩
      rw [runWith_of_accept haccept, respond_of_text rfl]
      rfl
    · rw [decode_of_forall_ne hnone]
      obtain ⟨message, hfailure⟩ := answer_unreadable o .notText
      rw [hfailure]
      exact ⟨rfl, rfl⟩

/-- A text of two-byte and one-byte characters, and a sentence with a byte behind
it that belongs to no character. -/
theorem sources_agree_two :
    (parseBytes ⟨#[0xC3, 0xA9, 0x7C, 0x70]⟩ = parse "é|p" ∧
      ∃ out, out = Options.answer ⟨none, none, none, false, true⟩ (.ok "é|p") (parse "é|p") ∧
        run ["-f", "s", "--all"] ⟨.empty, fun _ => some ⟨#[0xC3, 0xA9, 0x7C, 0x70]⟩⟩ = .ok out ∧
        run ["--all"] ⟨⟨#[0xC3, 0xA9, 0x7C, 0x70]⟩, fun _ => none⟩ = .ok out ∧
        run ["é|p", "--all"] ⟨.empty, fun _ => none⟩ = .ok out) ∧
    parseBytes ⟨#[0x70, 0xFF]⟩ = .error (.unreadable .notText) ∧
      ∃ out, run ["-f", "s", "--tokens"] ⟨.empty, fun _ => some ⟨#[0x70, 0xFF]⟩⟩ = .ok out ∧
        out.code = 255 ∧ out.stdout = [] := by
  constructor
  · obtain ⟨hparse, -, houtcome⟩ :=
      sources_agree Options.ofArgs ⟨#[0xC3, 0xA9, 0x7C, 0x70]⟩
    have hencoded : ⟨#[0xC3, 0xA9, 0x7C, 0x70]⟩ = ['é', '|', 'p'].utf8Encode := by decide +kernel
    obtain ⟨out, hfile, hstdin, hsentence, -⟩ := houtcome ⟨none, none, none, false, true⟩
    obtain ⟨hout, hsentence⟩ := hsentence _ hencoded
    exact ⟨(hparse _ hencoded).1, out, hout, hfile _ _ "s" rfl rfl, hstdin _ _ rfl rfl,
      hsentence _ _ none rfl⟩
  · obtain ⟨-, hparse, houtcome⟩ := sources_agree Options.ofArgs ⟨#[0x70, 0xFF]⟩
    have hnone : ∀ text : List Char, ⟨#[0x70, 0xFF]⟩ ≠ text.utf8Encode := by
      intro text htext
      have hvalid := ByteArray.validateUTF8_eq_true_iff.2 ⟨text, htext⟩
      exact absurd hvalid (by decide +kernel)
    obtain ⟨out, hfile, -, -, hrefused⟩ := houtcome ⟨none, none, none, true, false⟩
    exact ⟨(hparse hnone).1, out, hfile _ _ "s" rfl rfl, hrefused hnone⟩

end TruthTable
