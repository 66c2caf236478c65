import CertRenewal.Api.Body
import CertRenewal.Json.Encoding
import CertRenewal.Proofs.Blanks
import CertRenewal.Proofs.Utf8

/-
  What an accepted body says. A name is a text of at most 63 characters that has something left
  when it is trimmed, so that the names of an accepted renewal make an identity:
  `exists_identity_of_good`. The texts of a pair may be missing, null or broken:
  `pairFields_eq_good_iff`. A body of ASCII is read as the text that it is.
-/

namespace CertRenewal

/-! ## Bodies of ASCII -/

namespace Json

/-- Bytes of ASCII, with no zero among them, are taken for UTF-8. -/
theorem detect_of_ascii {b : Bytes} (h : ∀ x ∈ b, x ≠ 0 ∧ x < 128) : detect b = (.utf8, b) := by
  have foreign : ∀ m ∈ marks, ∃ x ∈ m.1, ¬ (x ≠ 0 ∧ x < 128) := by decide
  have plain : guess b = .utf8 := by
    have nonzero : (0 : UInt8) ∉ b := fun zero => (h 0 zero).1 rfl
    unfold guess
    split <;> first | rfl | exact absurd (by simp) nonzero
  unfold detect
  split
  · rename_i found marked
    obtain ⟨m, hm, marked⟩ := List.exists_of_findSome?_eq_some marked
    obtain ⟨rest, opens, -⟩ := Option.map_eq_some_iff.1 marked
    obtain ⟨x, hx, bad⟩ := foreign m hm
    rw [eq_append_of_after? opens] at h
    exact absurd (h x (List.mem_append_left rest hx)) bad
  · rw [plain]

theorem half?_of_lt {x : UInt8} (h : x < 128) (rest : Bytes) : half? (x :: rest) = none := by
  unfold half?
  split
  · rename_i opens
    obtain ⟨rfl, -⟩ := List.cons_eq_cons.1 opens
    exact absurd h (by decide)
  · rfl

/-- Where no byte opens a half, characters are read one by one. -/
theorem ofUtf8?_encode {s : List Char} (h : ∀ c ∈ s, c.toNat < 128) :
    ofUtf8? (Utf8.encode s) = some (Point.ofChars s) := by
  induction s with
  | nil =>
    rw [ofUtf8?.eq_def]
    rfl
  | cons c s ih =>
    obtain ⟨first, others⟩ := List.forall_mem_cons.1 h
    have byte : UInt8.ofNat c.toNat < 128 := by
      rw [UInt8.lt_iff_toNat_lt, UInt8.toNat_ofNat', Nat.mod_eq_of_lt (by omega)]
      exact first
    have whole : half? (Utf8.encode (c :: s)) = none := by
      rw [Utf8.encode_cons, Utf8.utf8EncodeChar_of_lt first]
      exact half?_of_lt byte (Utf8.encode s)
    rw [ofUtf8?.eq_def, whole, Utf8.encode_cons, Utf8.decodeOne?_append]
    dsimp only
    rw [ih others]
    rfl

/-- A text of ASCII is read as what it says. -/
theorem ofBytes_encode {s : List Char} (h : ∀ c ∈ s, 0 < c.toNat ∧ c.toNat < 128) :
    ofBytes (Utf8.encode s) = parse (Point.ofChars s) := by
  have bytes : ∀ x ∈ Utf8.encode s, x ≠ 0 ∧ x < 128 := by
    rw [Utf8.encode_of_lt fun c hc => (h c hc).2, List.forall_mem_map]
    intro c hc
    have range := h c hc
    rw [UInt8.lt_iff_toNat_lt, ne_eq, ← UInt8.toNat_inj, UInt8.toNat_ofNat',
      Nat.mod_eq_of_lt (by omega)]
    exact ⟨Nat.ne_of_gt range.1, range.2⟩
  unfold ofBytes
  rw [detect_of_ascii bytes]
  dsimp only [Encoding.decode?]
  rw [ofUtf8?_encode fun c hc => (h c hc).2]

end Json

namespace Validation.Checked

variable {α β : Type}

theorem map_eq_good {f : α → β} {x : Checked α} {c : β} (h : f <$> x = .good c) :
    ∃ a, x = .good a ∧ f a = c := by
  cases x with
  | good a =>
    cases h
    exact ⟨a, rfl, rfl⟩
  | bad es => cases h

/-- An application is good when both of its parts are. -/
theorem seq_eq_good {f : Checked (α → β)} {x : Checked α} {c : β} (h : f <*> x = .good c) :
    ∃ g a, f = .good g ∧ x = .good a ∧ g a = c := by
  cases f with
  | bad es => cases x <;> cases h
  | good g =>
    cases x with
    | bad es => cases h
    | good a =>
      cases h
      exact ⟨g, a, rfl, rfl, rfl⟩

end Validation.Checked

namespace Api

/-! ## Names -/

theorem boundedText_eq_ok_iff (least most : Nat) (v : Json) (s : String) :
    Validation.boundedText least most v = .ok s ↔
      v = .text s ∧ least ≤ s.length ∧ s.length ≤ most := by
  unfold Validation.boundedText Validation.text
  constructor
  · intro h
    cases v with
    | text t =>
      dsimp only [bind, Except.bind] at h
      split at h
      · cases h
      · split at h
        · cases h
        · cases h
          exact ⟨rfl, by omega, by omega⟩
    | _ => cases h
  · rintro ⟨rfl, long, short⟩
    dsimp only [bind, Except.bind]
    rw [if_neg (by omega), if_neg (by omega)]

/-- A name is accepted when it is a text of 1 to 63 characters, blanks around it counted, that has
something left when it is trimmed; what is left is the name. -/
theorem name_eq_ok_iff (v : Json) (n : Name) :
    name v = .ok n ↔
      ∃ s, v = .text s ∧ 1 ≤ s.length ∧ s.length ≤ maxNameLength ∧ Text.trim s ≠ "" ∧
        n.text = Text.trim s := by
  unfold name
  constructor
  · intro h
    cases bounded : Validation.boundedText 1 maxNameLength v with
    | error p =>
      rw [bounded] at h
      cases h
    | ok s =>
      obtain ⟨text, long, short⟩ := (boundedText_eq_ok_iff 1 maxNameLength v s).1 bounded
      rw [bounded] at h
      dsimp only [bind, Except.bind] at h
      split at h
      · cases h
      · rename_i something
        cases h
        exact ⟨s, text, long, short, fun empty => something ((Text.isBlankText_trim_iff s).2 empty),
          rfl⟩
  · rintro ⟨s, text, long, short, something, same⟩
    rw [(boundedText_eq_ok_iff 1 maxNameLength v s).2 ⟨text, long, short⟩]
    dsimp only [bind, Except.bind]
    rw [dif_neg fun blank => something ((Text.isBlankText_trim_iff s).1 blank)]
    exact congrArg Except.ok (Name.ext same.symm)

/-! ## Fields -/

section Fields

open Validation

variable {α : Type} {body v : Json} {key : String} {check : Json → Except Problem α} {a other : α}
  {Is : Option Json → α → Prop}

theorem checkAt_eq_good_iff {place : List String} :
    checkAt place check v = .good a ↔ check v = .ok a := by
  unfold checkAt
  cases check v with
  | ok b => simp
  | error p => exact iff_of_false nofun nofun

theorem required_eq_good_iff (absent : ¬ Is none a) (given : ∀ v, Is (some v) a ↔ check v = .ok a) :
    required body key check = .good a ↔ Is (body.field? key) a := by
  unfold required
  cases body.field? key with
  | none => exact iff_of_false nofun absent
  | some v => exact checkAt_eq_good_iff.trans (given v).symm

theorem required_eq_good (h : required body key check = .good a) :
    ∃ v, body.field? key = some v ∧ check v = .ok a := by
  unfold required at h
  split at h
  · rename_i v found
    exact ⟨v, found, checkAt_eq_good_iff.1 h⟩
  · cases h

theorem optional_eq_good_iff (absent : Is none a ↔ a = other)
    (given : ∀ v, Is (some v) a ↔ check v = .ok a) :
    optional body key check other = .good a ↔ Is (body.field? key) a := by
  unfold optional
  cases body.field? key with
  | none =>
    rw [absent]
    exact ⟨fun h => (Checked.good.inj h).symm, fun h => congrArg Checked.good h.symm⟩
  | some v => exact checkAt_eq_good_iff.trans (given v).symm

theorem nullable_of_ne_null (check : Json → Except Problem α) (h : v ≠ .null) :
    nullable check v = (check v).map some := by
  cases v with
  | null => exact absurd rfl h
  | _ => rfl

/-- A value that may be null is accepted as nothing, or as what it is otherwise. -/
theorem nullable_eq_ok_iff {b : Option α} :
    nullable check v = .ok b ↔
      v = .null ∧ b = none ∨ v ≠ .null ∧ ∃ a, check v = .ok a ∧ b = some a := by
  by_cases null : v = .null
  · rw [null]
    simp [nullable, eq_comm]
  · rw [nullable_of_ne_null check null]
    cases check v <;> simp [null, Except.map, eq_comm]

end Fields

/-- What a text that may be missing, or null, is taken for. It may be broken. -/
inductive IsOptionalText : Option Json → Option Wide → Prop where
  | absent : IsOptionalText none none
  | null : IsOptionalText (some .null) none
  | text (s : String) : IsOptionalText (some (.text s)) (some (.text s))
  | broken (b : Broken) : IsOptionalText (some (.broken b)) (some (.broken b))

theorem optionalText_eq_good_iff {body : Json} {key : String} {t : Option Wide} :
    optional body key (Validation.nullable Validation.wideText) none = .good t ↔
      IsOptionalText (body.field? key) t := by
  refine optional_eq_good_iff ⟨fun | .absent => rfl, fun h => h ▸ .absent⟩ fun v => ?_
  rw [nullable_eq_ok_iff]
  constructor
  · rintro (_ | _ | s | b)
    · exact .inl ⟨rfl, rfl⟩
    · exact .inr ⟨nofun, s, rfl, rfl⟩
    · exact .inr ⟨nofun, .broken b, rfl, rfl⟩
  · rintro (⟨rfl, rfl⟩ | ⟨-, w, accepted, rfl⟩)
    · exact .null
    · cases v with
      | text s =>
        obtain rfl := Except.ok.inj accepted
        exact .text s
      | broken b =>
        obtain rfl := Except.ok.inj accepted
        exact .broken b
      | _ => cases accepted

theorem pairFields_eq_good_iff {body : Json} {b : PairBody} :
    pairFields body = .good b ↔ IsOptionalText (body.field? "certificate_pem") b.certificate ∧
      IsOptionalText (body.field? "private_key_pem") b.privateKey := by
  rw [← optionalText_eq_good_iff, ← optionalText_eq_good_iff]
  unfold pairFields
  constructor
  · intro h
    obtain ⟨_, key, given, second, rfl⟩ := Validation.Checked.seq_eq_good h
    obtain ⟨certificate, first, rfl⟩ := Validation.Checked.map_eq_good given
    exact ⟨first, second⟩
  · rintro ⟨first, second⟩
    rw [first, second]
    rfl

/-! ## Accepted renewals -/

/-- An accepted body has both names in it. -/
theorem exists_names_of_good {v : Option Json} {b : RenewalBody}
    (h : checkBody renewalFields v = .good b) :
    ∃ body, v = some body ∧
      (∃ given, body.field? "service" = some given ∧ name given = .ok b.service) ∧
      ∃ given, body.field? "namespace" = some given ∧ name given = .ok b.namespaceName := by
  unfold checkBody at h
  split at h
  · cases h
  · rename_i l
    unfold renewalFields at h
    obtain ⟨_, force, given₁, -, rfl⟩ := Validation.Checked.seq_eq_good h
    obtain ⟨_, fullName, given₂, -, rfl⟩ := Validation.Checked.seq_eq_good given₁
    obtain ⟨_, host, given₃, -, rfl⟩ := Validation.Checked.seq_eq_good given₂
    obtain ⟨_, namespaceName, given₄, second, rfl⟩ := Validation.Checked.seq_eq_good given₃
    obtain ⟨_, service, given₅, first, rfl⟩ := Validation.Checked.seq_eq_good given₄
    obtain ⟨pair, -, rfl⟩ := Validation.Checked.map_eq_good given₅
    exact ⟨.object l, rfl, required_eq_good first, required_eq_good second⟩
  · cases h

/-- The names of a body are never blank, so that they make an identity. -/
theorem RenewalBody.make_identity (b : RenewalBody) :
    Identity.make b.service.text b.namespaceName.text b.apiServerHost = .ok b.identity := by
  unfold Identity.make
  rw [dif_neg (by rw [b.service.not_blank]; decide),
    dif_neg (by rw [b.namespaceName.not_blank]; decide)]
  rfl

/-- The names of an accepted body make an identity once they are trimmed. -/
theorem exists_identity_of_good {v : Option Json} {b : RenewalBody}
    (h : checkBody renewalFields v = .good b) :
    ∃ body service namespaceName, v = some body ∧
      body.field? "service" = some (.text service) ∧ service.length ≤ maxNameLength ∧
      body.field? "namespace" = some (.text namespaceName) ∧
      namespaceName.length ≤ maxNameLength ∧
      Identity.make (Text.trim service) (Text.trim namespaceName) b.apiServerHost =
        .ok b.identity := by
  obtain ⟨body, hv, ⟨_, found, hs⟩, ⟨_, found', hn⟩⟩ := exists_names_of_good h
  obtain ⟨service, rfl, -, short, -, trimmed⟩ := (name_eq_ok_iff _ _).1 hs
  obtain ⟨namespaceName, rfl, -, short', -, trimmed'⟩ := (name_eq_ok_iff _ _).1 hn
  refine ⟨body, service, namespaceName, hv, found, short, found', short', ?_⟩
  rw [← trimmed, ← trimmed']
  exact b.make_identity

end Api

end CertRenewal
