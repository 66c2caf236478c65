import CertRenewal.Proofs.Numerals
import CertRenewal.Proofs.Rsa
import CertRenewal.SigningRequest.Basic

/-
  A manifest loses nothing of what is submitted. `IsBase64Of` says what the base64 text of a byte
  string is without a word on how it is written or read: one number, to base 256 and to base 64.
  Main statement: `manifest_lossless`, the request in a manifest is the base64 of the PEM text,
  groups and usages stand in it in their order, and two requests have the same manifest exactly if
  they agree in name, text, groups, usages and version.
-/

namespace CertRenewal

/-! ## Base64 as a number -/

namespace Base64

/-- The digits of base64, each at the place of its value. -/
def IsDigitOf (c : Char) (value : Nat) : Prop :=
  "ABCDEFGHIJKLMNOPQRSTUVWXYZabcdefghijklmnopqrstuvwxyz0123456789+/".toList[value]? = some c

/-- The text is the base64 of a byte string: as many pads as there are bytes missing to a multiple
of three, and before them digits for the number of the bytes with two zero bits for each pad. There
are four characters for every three bytes, pads and missing bytes included. -/
def IsBase64Of (text : List Char) (b : Bytes) : Prop :=
  ∃ digits pads, text = digits ++ List.replicate pads '=' ∧ pads < 3 ∧ 3 ∣ b.length + pads ∧
    3 * text.length = 4 * (b.length + pads) ∧
    IsNumeral IsDigitOf 64 digits (Bytes.toNat b * 4 ^ pads)

theorem isDigitOf_digit {n : Nat} (h : n < 64) : IsDigitOf (digit n) n := by
  have row : "ABCDEFGHIJKLMNOPQRSTUVWXYZabcdefghijklmnopqrstuvwxyz0123456789+/".toList =
      (List.range 64).map digit := by decide +kernel
  unfold IsDigitOf
  rw [row, List.getElem?_map, List.getElem?_range h]
  rfl

/-- The digits of some values are a numeral for the number that the values make up. -/
theorem isNumeral_map_digit (values : List Nat) {n : Nat} (small : ∀ d ∈ values, d < 64)
    (number : values.foldl (fun n d => n * 64 + d) 0 = n) :
    IsNumeral IsDigitOf 64 (values.map digit) n := by
  refine ⟨values, ?_, ?_⟩
  · rw [List.forall₂_map_left_iff, List.forall₂_same]
    exact fun d mem => isDigitOf_digit (small d mem)
  · rw [ofDigits_reverse_eq_foldl, number]

/-- Four digits are enough for a number of three bytes. -/
theorem isNumeral_quad {n : Nat} (bound : n < 16777216) : IsNumeral IsDigitOf 64
    ([n / 262144, n / 4096 % 64, n / 64 % 64, n % 64].map digit) n := by
  apply isNumeral_map_digit
  · simp only [List.forall_mem_cons]
    exact ⟨by omega, by omega, by omega, by omega, List.forall_mem_nil _⟩
  · simp only [List.foldl_cons, List.foldl_nil]
    omega

theorem isNumeral_encode3 (a b c : UInt8) :
    IsNumeral IsDigitOf 64 (encode3 a b c) (a.toNat * 65536 + b.toNat * 256 + c.toNat) := by
  have bound : a.toNat * 65536 + b.toNat * 256 + c.toNat < 16777216 := by
    have ha := a.toNat_lt
    have hb := b.toNat_lt
    have hc := c.toNat_lt
    omega
  exact isNumeral_quad bound

/-- The number of bytes of which the first three are known. -/
theorem toNat_cons3 (a b c : UInt8) (rest : Bytes) : Bytes.toNat (a :: b :: c :: rest) =
    (a.toNat * 65536 + b.toNat * 256 + c.toNat) * 256 ^ rest.length + Bytes.toNat rest := by
  rw [Bytes.toNat_cons, Bytes.toNat_cons, Bytes.toNat_cons, List.length_cons, List.length_cons,
    Nat.pow_succ, Nat.pow_succ]
  ring

/-- What is written is the base64 of the bytes. -/
theorem isBase64Of_encode (b : Bytes) : IsBase64Of (encode b) b := by
  fun_induction encode b with
  | case1 => exact ⟨[], 0, rfl, by decide, by decide, rfl, [], .nil, rfl⟩
  | case2 a =>
    have ha := a.toNat_lt
    have number : Bytes.toNat [a] = a.toNat := by simp [Bytes.toNat]
    refine ⟨[a.toNat / 4, a.toNat % 4 * 16].map digit, 2, rfl, by decide, ⟨1, rfl⟩, rfl, ?_⟩
    rw [number]
    apply isNumeral_map_digit
    · simp only [List.forall_mem_cons]
      exact ⟨by omega, by omega, List.forall_mem_nil _⟩
    · simp only [List.foldl_cons, List.foldl_nil]
      omega
  | case3 a b =>
    have ha := a.toNat_lt
    have hb := b.toNat_lt
    have number : Bytes.toNat [a, b] = a.toNat * 256 + b.toNat := by simp [Bytes.toNat]
    refine ⟨[Bytes.toNat [a, b] / 1024, Bytes.toNat [a, b] / 16 % 64,
      Bytes.toNat [a, b] % 16 * 4].map digit, 1, ?_, by decide, ⟨1, rfl⟩, rfl, ?_⟩
    · rw [number]
      rfl
    apply isNumeral_map_digit
    · rw [number]
      simp only [List.forall_mem_cons]
      exact ⟨by omega, by omega, by omega, List.forall_mem_nil _⟩
    · rw [number]
      simp only [List.foldl_cons, List.foldl_nil]
      omega
  | case4 a b c rest ih =>
    obtain ⟨digits, pads, text, few, whole, length, number⟩ := ih
    -- Six bits for each digit and two for each pad, against eight for each byte.
    have powers : 64 ^ digits.length = 256 ^ rest.length * 4 ^ pads := by
      rw [text, List.length_append, List.length_replicate] at length
      calc 64 ^ digits.length = 4 ^ (3 * digits.length) := by rw [Nat.pow_mul]
        _ = 4 ^ (4 * rest.length + pads) := by
          congr 1
          omega
        _ = 256 ^ rest.length * 4 ^ pads := by rw [Nat.pow_add, Nat.pow_mul]
    have joined := (isNumeral_encode3 a b c).append number
    refine ⟨encode3 a b c ++ digits, pads, ?_, few, ?_, ?_, ?_⟩
    · rw [text, List.append_assoc]
    · simp only [List.length_cons]
      omega
    · rw [List.length_append]
      simp only [List.length_cons, encode3, List.length_nil]
      omega
    · rw [toNat_cons3, Nat.add_mul, Nat.mul_assoc, ← powers]
      exact joined

theorem encode_injective : Function.Injective encode := by
  intro b b' same
  have decoded := decode_encode b
  rw [same, decode_encode] at decoded
  exact (Option.some.inj decoded).symm

end Base64

/-! ## Manifests -/

/-- A usage is found again by its name. -/
theorem KeyUsage.ofLabel_label (u : KeyUsage) : ofLabel u.label = .ok u := by
  cases u <;> decide

theorem KeyUsage.label_injective : Function.Injective label := by
  intro u u' same
  have found := ofLabel_label u
  rw [same, ofLabel_label] at found
  exact (Except.ok.inj found).symm

namespace SigningRequest

/-- What stands in the specification of a manifest under a name. -/
def specified? (manifest : Json) (name : String) : Option Json := do
  let spec ← manifest.field? "spec"
  spec.field? name

/-- Two manifests are the same only if they are of requests that agree in all that is submitted. -/
theorem eq_of_manifest_eq {r r' : SigningRequest} (same : r.manifest = r'.manifest) :
    r.name = r'.name ∧ r.pem = r'.pem ∧ r.groups = r'.groups ∧ r.usages = r'.usages ∧
      r.apiVersion = r'.apiVersion := by
  simp only [manifest, Json.texts, Json.object.injEq, List.cons.injEq, Prod.mk.injEq,
    Json.text.injEq, Json.list.injEq, true_and, and_true] at same
  obtain ⟨version, name, request, groups, usages⟩ := same
  have texts : Function.Injective Json.text := fun _ _ => Json.text.inj
  refine ⟨name, Base64.encode_injective (String.ofList_injective request), ?_, ?_, version⟩
  · exact texts.list_map groups
  · exact KeyUsage.label_injective.list_map (texts.list_map usages)

/-- In a manifest the request is the base64 of the PEM text and nothing else, and reads back as
it; groups and usages are all there, in their order. No two requests that differ in the name, in
the text, in the groups, in the usages or in the version have the same manifest. -/
theorem manifest_lossless :
    (∀ r : SigningRequest,
      (∃ text, specified? r.manifest "request" = some (.text text) ∧
        Base64.IsBase64Of text.toList r.pem ∧ Base64.decode? text.toList = some r.pem) ∧
      specified? r.manifest "groups" = some (.list (r.groups.map .text)) ∧
      specified? r.manifest "usages" = some (.list (r.usages.map fun u => .text u.label))) ∧
    ∀ r r' : SigningRequest, r.manifest = r'.manifest ↔
      r.name = r'.name ∧ r.pem = r'.pem ∧ r.groups = r'.groups ∧ r.usages = r'.usages ∧
        r.apiVersion = r'.apiVersion := by
  constructor
  · intro r
    refine ⟨⟨String.ofList (Base64.encode r.pem), rfl, ?_, ?_⟩, rfl, ?_⟩
    · rw [String.toList_ofList]
      exact Base64.isBase64Of_encode r.pem
    · rw [String.toList_ofList, Base64.decode_encode]
    · show some (Json.list ((r.usages.map KeyUsage.label).map .text)) = _
      rw [List.map_map]
      rfl
  · intro r r'
    refine ⟨eq_of_manifest_eq, ?_⟩
    rintro ⟨name, pem, groups, usages, version⟩
    unfold manifest
    rw [name, pem, groups, usages, version]

end SigningRequest

end CertRenewal
