import Mathlib.Data.List.DropRight
import Latchkey.FieldFunction
import Latchkey.Proofs.Text
import Latchkey.Proofs.Token.Base64

/-!
A token carries a document if it has three parts, with the bytes of the document in base64 as the
middle one. Two alphabets are tried, one after the other, behind whatever padding there is; the
first one never stands in the way of the second (`payloadBytes?_eq_some_iff`). `jwt_reads`: the
function of a field finds the members of this document, and nothing in any other token.
-/

namespace Latchkey

namespace Token

theorem splitOn_eq_three_iff {token header payload signature : List Char} :
    token.splitOn '.' = [header, payload, signature] ↔
      ('.' ∉ header ∧ '.' ∉ payload ∧ '.' ∉ signature) ∧
        token = header ++ '.' :: (payload ++ '.' :: signature) := by
  constructor
  · intro parts
    have plain : ∀ part ∈ [header, payload, signature], '.' ∉ part := by
      intro part of dot
      rw [← parts] at of
      exact (Text.of_mem_splitOn of dot).2 rfl
    have whole : ['.'].intercalate (token.splitOn '.') = token := List.intercalate_splitOn '.'
    rw [parts] at whole
    exact ⟨by simpa using plain, by simpa [List.intercalate] using whole.symm⟩
  · rintro ⟨⟨header_plain, payload_plain, signature_plain⟩, rfl⟩
    rw [List.splitOn_append_cons_self_of_not_mem header_plain,
      List.splitOn_append_cons_self_of_not_mem payload_plain,
      List.splitOn_eq_singleton signature_plain]

/-- The payload without the padding at its end. -/
def unpadded (payload : List Char) : List Char := payload.rdropWhile (· == '=')

theorem unpadded_append {text : List Char} (plain : '=' ∉ text) (k : Nat) :
    unpadded (text ++ List.replicate k '=') = text := by
  induction k with
  | zero =>
    rw [List.replicate_zero, List.append_nil]
    refine List.rdropWhile_eq_self_iff.mpr ?_
    intro some_text padded
    have last : text.getLast some_text = '=' := by simpa using padded
    exact plain (last ▸ List.getLast_mem some_text)
  | succ k ih =>
    rw [List.replicate_succ', ← List.append_assoc, unpadded, List.rdropWhile_concat_pos _ _ _ rfl]
    exact ih

theorem exists_padding (payload : List Char) :
    ∃ k, payload = unpadded payload ++ List.replicate k '=' := by
  refine ⟨(payload.rtakeWhile (· == '=')).length, ?_⟩
  have padding : payload.rtakeWhile (· == '=') =
      List.replicate (payload.rtakeWhile (· == '=')).length '=' := by
    refine List.eq_replicate_of_mem ?_
    intro c among
    simpa using List.mem_rtakeWhile_imp among
  rw [← padding]
  exact List.rdropWhile_append_rtakeWhile.symm

/-- The bytes of a payload are those it is the written form of, in one alphabet or the other, with
any padding behind. -/
theorem payloadBytes?_eq_some_iff {payload : List Char} {bytes : List UInt8} :
    payloadBytes? payload = some bytes ↔
      ∃ (a : Base64.Alphabet) (k : Nat),
        payload = Base64.encode a bytes ++ List.replicate k '=' := by
  have tried : payloadBytes? payload = (Base64.decode? .urlSafe (unpadded payload)).or
      (Base64.decode? .standard (unpadded payload)) := rfl
  rw [tried, Option.or_eq_some_iff, Base64.decode?_eq_some_iff, Base64.decode?_eq_some_iff]
  constructor
  · obtain ⟨k, padded⟩ := exists_padding payload
    rintro (url | ⟨-, standard⟩)
    · exact ⟨.urlSafe, k, url ▸ padded⟩
    · exact ⟨.standard, k, standard ▸ padded⟩
  · rintro ⟨a, k, rfl⟩
    have plain : '=' ∉ Base64.encode a bytes :=
      Base64.not_mem_encode (by cases a <;> decide)
    rw [unpadded_append plain]
    cases a with
    | urlSafe => exact .inl rfl
    | standard =>
      cases read : Base64.decode? .urlSafe (Base64.encode .standard bytes) with
      | none => exact .inr ⟨rfl, rfl⟩
      | some bytes' =>
        -- no symbol of the one alphabet alone: the text is the same in the other
        have same := Base64.decode?_eq_some_iff.mp read
        rw [← Base64.encode_injective same] at same
        exact .inl same

/-- The token has three parts with dots between them, and the middle one is the bytes of the
document in base64, in one alphabet or the other, with any padding behind. -/
def Carries (token : String) (v : Json) : Prop :=
  ∃ (header signature : List Char) (a : Base64.Alphabet) (bytes : List UInt8) (k : Nat),
    '.' ∉ header ∧ '.' ∉ signature ∧
    token.toList =
      header ++ '.' :: (Base64.encode a bytes ++ List.replicate k '=' ++ '.' :: signature) ∧
    Json.ofBytes? bytes = some v

theorem document_eq_ok_iff {token : String} {v : Json} :
    document token = .ok v ↔ Carries token v := by
  constructor
  · intro read
    unfold document at read
    split at read
    · next header payload signature parts =>
      obtain ⟨⟨header_plain, -, signature_plain⟩, whole⟩ := splitOn_eq_three_iff.mp parts
      split at read
      · cases read
      · next bytes held =>
        obtain ⟨a, k, rfl⟩ := payloadBytes?_eq_some_iff.mp held
        split at read
        · cases read
        · next parsed =>
          cases read
          exact ⟨header, signature, a, bytes, k, header_plain, signature_plain, whole, parsed⟩
    · cases read
  · rintro ⟨header, signature, a, bytes, k, header_plain, signature_plain, whole, parsed⟩
    have payload_plain : '.' ∉ Base64.encode a bytes ++ List.replicate k '=' := by
      intro dot
      rcases List.mem_append.mp dot with written | padding
      · exact Base64.not_mem_encode (by cases a <;> decide) written
      · exact absurd (List.eq_of_mem_replicate padding) (by decide)
    have parts := splitOn_eq_three_iff.mpr
      ⟨⟨header_plain, payload_plain, signature_plain⟩, whole⟩
    have held : payloadBytes? (Base64.encode a bytes ++ List.replicate k '=') = some bytes :=
      payloadBytes?_eq_some_iff.mpr ⟨a, k, rfl⟩
    simp only [document, parts, held, parsed]

theorem document_eq_notThreeParts_iff {token : String} :
    document token = .error .notThreeParts ↔ token.toList.count '.' ≠ 2 := by
  have parts := Text.length_splitOn '.' token.toList
  unfold document
  split
  · next three =>
    rw [three, List.length_cons, List.length_cons, List.length_singleton] at parts
    have two : token.toList.count '.' = 2 := by omega
    refine iff_of_false ?_ (not_not.mpr two)
    intro refused
    split at refused
    · cases refused
    · split at refused <;> cases refused
  · next other =>
    refine iff_of_true rfl ?_
    intro two
    rw [two, List.length_eq_three] at parts
    obtain ⟨header, payload, signature, three⟩ := parts
    exact other _ _ _ three

/-- **A token is read exactly as it is written.** With the name of a member as its first argument,
the function `jwt` finds in a token the member of the document that the token carries, null if there
is none, and nothing in a token that carries no document. A text with other than two dots is
refused as no token. -/
theorem jwt_reads (token : String) {name : String} (args : List String) (named : name ≠ "") :
    (∀ made, FieldFunction.jwt (.str token) (name :: args) = .ok made ↔
      ∃ v, Carries token v ∧ made = (v.member? name).getD .null) ∧
    (token.toList.count '.' ≠ 2 →
      FieldFunction.jwt (.str token) (name :: args) = .error (.malformedToken .notThreeParts)) := by
  have asked : FieldFunction.jwt (.str token) (name :: args) =
      ((document token).map fun v => (v.member? name).getD .null).mapError .malformedToken := by
    rw [FieldFunction.jwt, if_neg named]
    rfl
  rw [asked]
  constructor
  · intro made
    cases read : document token with
    | error fault =>
      refine iff_of_false (by rintro ⟨⟩) ?_
      rintro ⟨v, carries, -⟩
      cases read.symm.trans (document_eq_ok_iff.mpr carries)
    | ok held =>
      constructor
      · rintro ⟨⟩
        exact ⟨held, document_eq_ok_iff.mp read, rfl⟩
      · rintro ⟨v, carries, rfl⟩
        cases read.symm.trans (document_eq_ok_iff.mpr carries)
        rfl
  · intro dots
    rw [document_eq_notThreeParts_iff.mpr dots]
    rfl

/-- A payload in the standard alphabet alone, with padding behind, between an empty header and an
empty signature; and a text with one dot. -/
theorem standard_payload_read :
    (FieldFunction.jwt (.str ".eyJzdWIiOiI/Pz4ifQ==.") ["sub"]).map Json.keyText = .ok "??>" ∧
      FieldFunction.jwt (.str "eyJzdWIiOiI/Pz4ifQ==.") ["sub"] =
        .error (.malformedToken .notThreeParts) := by
  let bytes := "\x7b\"sub\":\"??>\"\x7d".toUTF8.toList
  have member : ((Json.ofBytes? bytes).bind (Json.member? "sub")).map Json.keyText =
      some "??>" := by decide +kernel
  obtain ⟨sub, found, text⟩ := Option.map_eq_some_iff.mp member
  obtain ⟨v, parsed, found⟩ := Option.bind_eq_some_iff.mp found
  have carries : Carries ".eyJzdWIiOiI/Pz4ifQ==." v :=
    ⟨[], [], .standard, bytes, 2, List.not_mem_nil, List.not_mem_nil, by decide +kernel, parsed⟩
  obtain ⟨read, -⟩ := jwt_reads ".eyJzdWIiOiI/Pz4ifQ==." [] (by decide : "sub" ≠ "")
  obtain ⟨-, refused⟩ := jwt_reads "eyJzdWIiOiI/Pz4ifQ==." [] (by decide : "sub" ≠ "")
  refine ⟨?_, refused (by decide)⟩
  rw [(read sub).mpr ⟨v, carries, by rw [found, Option.getD_some]⟩, Except.map, text]

end Token
end Latchkey
