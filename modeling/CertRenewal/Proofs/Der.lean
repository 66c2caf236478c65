import CertRenewal.Der.Value
import CertRenewal.Proofs.Utf8
import Mathlib.Algebra.Group.Nat.Defs
import Mathlib.Data.List.Induction

/-
  Reading undoes writing, for elements and for the values of the primitive types. A reader that
  stands before what a writer wrote, with anything behind it, takes exactly that and leaves the
  rest. The one condition is the size: the count of the bytes of a length has a byte of its own,
  so that no element of `256 ^ 126` bytes or more has a written form.
-/

namespace CertRenewal

/-! ## Shortest numbers -/

theorem head?_append_of_ne_nil {α : Type} {l : List α} (h : l ≠ []) (rest : List α) :
    (l ++ rest).head? = l.head? := by
  cases l with
  | nil => exact absurd rfl h
  | cons x l => rfl

namespace Bytes

theorem toNat_lt (b : Bytes) : toNat b < 256 ^ b.length := by
  induction b using List.reverseRecOn with
  | nil => simp
  | append_singleton b x ih =>
    have byte := x.toNat_lt
    rw [toNat_append_singleton, List.length_append, List.length_singleton, Nat.pow_succ]
    omega

theorem length_ofNat_le {n k : Nat} (h : n < 256 ^ k) : (ofNat n).length ≤ k := by
  induction k generalizing n with
  | zero =>
    have zero : n = 0 := by simpa using h
    simp [zero]
  | succ k ih =>
    by_cases zero : n = 0
    · simp [zero]
    · have less : n / 256 < 256 ^ k := by
        rw [Nat.div_lt_iff_lt_mul (by omega), ← Nat.pow_succ]
        exact h
      rw [ofNat_of_ne_zero zero, List.length_append, List.length_singleton]
      exact Nat.add_le_add_right (ih less) 1

theorem ofNat_eq_nil_iff {n : Nat} : ofNat n = [] ↔ n = 0 := by
  constructor
  · intro h
    rw [← toNat_ofNat n, h, toNat_nil]
  · rintro rfl
    exact ofNat_zero

/-- The first byte of a shortest number is not zero. -/
theorem head?_ofNat_ne_zero (n : Nat) : (ofNat n).head? ≠ some 0 := by
  induction n using Nat.strongRecOn with
  | ind n ih =>
    by_cases zero : n = 0
    · simp [zero]
    rw [ofNat_of_ne_zero zero]
    by_cases small : n / 256 = 0
    · have byte : (UInt8.ofNat (n % 256)).toNat = n := by
        rw [UInt8.toNat_ofNat']
        omega
      rw [small, ofNat_zero, List.nil_append, List.head?_cons, ne_eq, Option.some.injEq]
      intro h
      rw [h] at byte
      exact zero byte.symm
    · have first := ih (n / 256) (by omega)
      have some_byte : ofNat (n / 256) ≠ [] := fun h => small (ofNat_eq_nil_iff.1 h)
      rw [head?_append_of_ne_nil some_byte]
      exact first

/-- A number that is not zero has at least one byte. -/
theorem length_ofNat_pos {n : Nat} (h : n ≠ 0) : 1 ≤ (ofNat n).length :=
  List.length_pos_iff.2 fun nil => h (ofNat_eq_nil_iff.1 nil)

end Bytes

/-- Things that are read back one by one are read back as a list. -/
theorem mapM_map_eq_some {α β : Type} {read : β → Option α} {write : α → β} {l : List α}
    (h : ∀ a ∈ l, read (write a) = some a) : (l.map write).mapM read = some l := by
  induction l with
  | nil => rfl
  | cons a l ih =>
    have first := h a List.mem_cons_self
    have others := ih fun b hb => h b (List.mem_cons_of_mem _ hb)
    simp only [List.map_cons, List.mapM_cons, first, others, Option.bind_eq_bind,
      Option.bind_some]
    rfl

namespace Der

/-- The sizes that have a written form are those below this one, which is far beyond any memory. -/
def lengthLimit : Nat := 256 ^ maxLengthBytes

/-! ## Base 128 -/

theorem toNat_128 : (128 : UInt8).toNat = 128 := rfl

theorem high_of_ne_zero {n : Nat} (h : n ≠ 0) :
    base128.high n = base128.high (n / 128) ++ [UInt8.ofNat (128 + n % 128)] := by
  rw [base128.high, if_neg h]

theorem high_zero : base128.high 0 = [] := by
  rw [base128.high, if_pos rfl]

/-- Reading on from zero over the leading bytes of a number has read this number. -/
theorem readBase128From?_high (n : Nat) (rest : Bytes) :
    readBase128From? 0 (base128.high n ++ rest) = readBase128From? n rest := by
  induction n using Nat.strongRecOn generalizing rest with
  | ind n ih =>
    by_cases zero : n = 0
    · rw [zero, high_zero, List.nil_append]
    · have byte : (UInt8.ofNat (128 + n % 128)).toNat = 128 + n % 128 := by
        rw [UInt8.toNat_ofNat']
        omega
      have more : ¬ UInt8.ofNat (128 + n % 128) < 128 := by
        rw [UInt8.lt_iff_toNat_lt, byte, toNat_128]
        omega
      have value : n / 128 * 128 + (128 + n % 128 - 128) = n := by omega
      rw [high_of_ne_zero zero, List.append_assoc, ih (n / 128) (by omega), List.singleton_append,
        readBase128From?, if_neg more, byte, value]

/-- The first of the leading bytes of a number is not the padding one. -/
theorem head?_high_ne_padding (n : Nat) : (base128.high n).head? ≠ some 128 := by
  induction n using Nat.strongRecOn with
  | ind n ih =>
    by_cases zero : n = 0
    · simp [zero, high_zero]
    rw [high_of_ne_zero zero]
    by_cases small : n / 128 = 0
    · have byte : (UInt8.ofNat (128 + n % 128)).toNat = 128 + n := by
        rw [UInt8.toNat_ofNat']
        omega
      rw [small, high_zero, List.nil_append, List.head?_cons, ne_eq, Option.some.injEq]
      intro h
      rw [h, toNat_128] at byte
      omega
    · have some_byte : base128.high (n / 128) ≠ [] := by
        rw [high_of_ne_zero small]
        simp
      rw [head?_append_of_ne_nil some_byte]
      exact ih (n / 128) (by omega)

theorem head?_base128_ne_padding (n : Nat) (rest : Bytes) :
    (base128 n ++ rest).head? ≠ some 128 := by
  unfold base128
  by_cases small : n / 128 = 0
  · have byte : (UInt8.ofNat (n % 128)).toNat = n % 128 := by
      rw [UInt8.toNat_ofNat']
      omega
    rw [small, high_zero, List.nil_append, List.singleton_append, List.head?_cons, ne_eq,
      Option.some.injEq]
    intro h
    rw [h, toNat_128] at byte
    omega
  · have some_byte : base128.high (n / 128) ≠ [] := by
      rw [high_of_ne_zero small]
      simp
    rw [List.append_assoc, head?_append_of_ne_nil some_byte]
    exact head?_high_ne_padding (n / 128)

/-- A number in base 128 is read back. -/
theorem readBase128?_base128 (n : Nat) (rest : Bytes) :
    readBase128? (base128 n ++ rest) = some (n, rest) := by
  have value : readBase128From? 0 (base128 n ++ rest) = some (n, rest) := by
    have byte : (UInt8.ofNat (n % 128)).toNat = n % 128 := by
      rw [UInt8.toNat_ofNat']
      omega
    have last : UInt8.ofNat (n % 128) < 128 := by
      rw [UInt8.lt_iff_toNat_lt, byte, toNat_128]
      omega
    rw [base128, List.append_assoc, readBase128From?_high, List.singleton_append,
      readBase128From?, if_pos last, byte]
    congr 2
    omega
  have first := head?_base128_ne_padding n rest
  cases h : base128 n ++ rest with
  | nil =>
    rw [h] at value
    cases value
  | cons x tail =>
    rw [h] at value first
    rw [readBase128?, if_neg fun padding => first (by rw [padding]; rfl)]
    exact value

/-! ## Tags -/

namespace Tag

/-- The first byte of a tag, with the given low five bits. -/
def lead (t : Tag) (low : Nat) : UInt8 :=
  UInt8.ofNat (t.tagClass.code * 64 + (if t.constructed then 32 else 0) + low)

theorem toNat_lead (t : Tag) {low : Nat} (h : low < 32) :
    (t.lead low).toNat = t.tagClass.code * 64 + (if t.constructed then 32 else 0) + low := by
  have code : t.tagClass.code < 4 := by cases t.tagClass <;> decide
  rw [lead, UInt8.toNat_ofNat']
  split <;> omega

/-- The two top bits are the class. -/
theorem ofCode_lead (t : Tag) {low : Nat} (h : low < 32) :
    TagClass.ofCode ((t.lead low).toNat / 64) = t.tagClass := by
  have top : (t.lead low).toNat / 64 = t.tagClass.code := by
    rw [toNat_lead t h]
    split <;> omega
  rw [top, TagClass.ofCode_code]

/-- The next bit tells whether the contents are elements. -/
theorem constructed_lead (t : Tag) {low : Nat} (h : low < 32) :
    ((t.lead low).toNat / 32 % 2 == 1) = t.constructed := by
  have bit : (t.lead low).toNat / 32 % 2 = if t.constructed then 1 else 0 := by
    rw [toNat_lead t h]
    split <;> omega
  rw [bit]
  cases t.constructed <;> rfl

theorem low_lead (t : Tag) {low : Nat} (h : low < 32) : (t.lead low).toNat % 32 = low := by
  rw [toNat_lead t h]
  split <;> omega

/-- A tag whose number can be written is read back. -/
theorem read?_encode (t : Tag) (h : t.isProper = true) (rest : Bytes) :
    read? (t.encode ++ rest) = some (t, rest) := by
  by_cases small : t.number < 31
  · have low : t.number < 32 := Nat.lt_succ_of_lt small
    have short : t.encode = [t.lead t.number] := if_pos small
    rw [short, List.singleton_append, read?, ofCode_lead t low, constructed_lead t low,
      low_lead t low, if_pos small]
  · have low : 31 < 32 := by decide
    have long : t.encode = t.lead 31 :: base128 t.number := if_neg small
    have large : 31 ≤ t.number := Nat.le_of_not_lt small
    rw [long, List.cons_append, read?, ofCode_lead t low, constructed_lead t low,
      low_lead t low, if_neg (Nat.lt_irrefl 31), readBase128?_base128]
    show (if (decide (31 ≤ t.number) && t.isProper) = true then some (t, rest) else none) =
      some (t, rest)
    rw [decide_eq_true large, h]
    rfl

end Tag

/-! ## Lengths -/

/-- A length below the limit is read back. -/
theorem readLength?_encodeLength {n : Nat} (h : n < lengthLimit) (rest : Bytes) :
    readLength? (encodeLength n ++ rest) = some (n, rest) := by
  unfold encodeLength
  by_cases small : n < 128
  · have byte : (UInt8.ofNat n).toNat = n := by
      rw [UInt8.toNat_ofNat']
      omega
    rw [if_pos small, List.singleton_append, readLength?, byte, if_pos small]
  · have most : (Bytes.ofNat n).length ≤ maxLengthBytes := Bytes.length_ofNat_le h
    have least : 1 ≤ (Bytes.ofNat n).length := Bytes.length_ofNat_pos (by omega)
    have bound : maxLengthBytes = 126 := rfl
    have byte : (UInt8.ofNat (128 + (Bytes.ofNat n).length)).toNat =
        128 + (Bytes.ofNat n).length := by
      rw [UInt8.toNat_ofNat']
      omega
    rw [if_neg small]
    dsimp only
    rw [List.cons_append, readLength?, byte, if_neg (by omega)]
    dsimp only
    rw [Nat.add_sub_cancel_left, List.take_left, List.drop_left, Bytes.toNat_ofNat]
    exact if_pos ⟨least, most, rfl, Bytes.head?_ofNat_ne_zero n, by omega⟩

/-! ## Elements -/

namespace Element

/-- The contents are small enough to be written. -/
def Fits (e : Element) : Prop := e.contents.length < lengthLimit

/-- An element is read back, whatever follows it. -/
theorem read?_encode (e : Element) (h : e.isProper = true) (fits : e.Fits) (rest : Bytes) :
    read? (e.encode ++ rest) = some (e, rest) := by
  simp only [read?, encode, List.append_assoc, Tag.read?_encode e.tag h,
    readLength?_encodeLength fits, Option.bind_eq_bind, Option.bind_some]
  rw [if_pos (by simp), List.take_left, List.drop_left]

theorem encode_ne_nil (e : Element) : e.encode ≠ [] := by
  unfold encode Tag.encode
  dsimp only
  split <;> simp

theorem length_contents_le (e : Element) : e.contents.length ≤ e.encode.length := by
  unfold encode
  rw [List.length_append]
  exact Nat.le_add_left _ _

end Element

theorem encodeAll_cons (e : Element) (es : List Element) :
    encodeAll (e :: es) = e.encode ++ encodeAll es := rfl

theorem length_encode_le {e : Element} {es : List Element} (h : e ∈ es) :
    e.encode.length ≤ (encodeAll es).length := by
  induction es with
  | nil => cases h
  | cons f fs ih =>
    rw [encodeAll_cons, List.length_append]
    rcases List.mem_cons.1 h with rfl | h
    · exact Nat.le_add_right _ _
    · exact Nat.le_trans (ih h) (Nat.le_add_left _ _)

/-- Elements in a row are read back. -/
theorem readAll?_encodeAll (es : List Element) (proper : ∀ e ∈ es, e.isProper = true)
    (fits : (encodeAll es).length < lengthLimit) : readAll? (encodeAll es) = some es := by
  induction es with
  | nil =>
    show readAll? [] = some []
    rw [readAll?, if_pos rfl]
  | cons e es ih =>
    rw [encodeAll_cons, List.length_append] at fits
    have first : Element.read? (e.encode ++ encodeAll es) = some (e, encodeAll es) :=
      Element.read?_encode e (proper e List.mem_cons_self)
        (Nat.lt_of_le_of_lt e.length_contents_le (by omega)) _
    have others : readAll? (encodeAll es) = some es :=
      ih (fun f hf => proper f (List.mem_cons_of_mem _ hf)) (by omega)
    have nonempty : e.encode ++ encodeAll es ≠ [] :=
      List.append_ne_nil_of_left_ne_nil e.encode_ne_nil _
    rw [encodeAll_cons, readAll?, if_neg nonempty]
    split
    · rename_i e' rest h
      rw [first] at h
      cases h
      rw [others]
      rfl
    · rename_i h
      rw [first] at h
      cases h

/-- An element that stands alone is read back. -/
theorem readOne?_encode (e : Element) (h : e.isProper = true) (fits : e.Fits) :
    readOne? e.encode = some e := by
  have read := Element.read?_encode e h fits []
  rw [List.append_nil] at read
  rw [readOne?, read]

namespace Element

/-- The elements that an element was made of are read back. -/
theorem children?_node (tag : Tag) (es : List Element) (proper : ∀ e ∈ es, e.isProper = true)
    (fits : (node tag es).Fits) : (node tag es).children? tag = some es := by
  have contents : (node tag es).contents? tag = some (encodeAll es) := if_pos rfl
  rw [children?, contents]
  exact readAll?_encodeAll es proper fits

/-- What is inside a small enough element is small enough. -/
theorem Fits.of_mem {tag : Tag} {e : Element} {es : List Element} (fits : (node tag es).Fits)
    (h : e ∈ es) : e.Fits :=
  Nat.lt_of_le_of_lt (Nat.le_trans e.length_contents_le (length_encode_le h)) fits

/-! ## Values -/

theorem head?_natContents_lt (n : Nat) : (natContents n).head?.any (· < 128) = true := by
  unfold natContents
  split
  · rfl
  · split
    · rename_i small
      simpa using small
    · rfl

theorem toNat_natContents (n : Nat) : (natContents n).toNat = n := by
  have value := Bytes.toNat_ofNat n
  unfold natContents
  split
  · rename_i h
    rw [← value, h]
    rfl
  · rename_i x rest h
    rw [h] at value
    split
    · exact value
    · rw [← value]
      simp [Bytes.toNat]

theorem isMinimal_natContents (n : Nat) : isMinimal (natContents n) = true := by
  have first := Bytes.head?_ofNat_ne_zero n
  unfold natContents
  split
  · rfl
  · rename_i x rest h
    rw [h, List.head?_cons, ne_eq, Option.some.injEq] at first
    split
    · rename_i small
      have not_sign : (x == 255) = false := by
        rw [beq_eq_false_iff_ne]
        rintro rfl
        exact absurd small (by decide)
      cases rest with
      | nil => rfl
      | cons y ys => simp [isMinimal, not_sign, first]
    · rename_i large
      simp [isMinimal, large]

theorem toNat_complement_byte (x : UInt8) : (255 - x).toNat = 255 - x.toNat :=
  UInt8.toNat_sub_of_le _ _ (UInt8.le_iff_toNat_le.2 (Nat.le_of_lt_succ x.toNat_lt))

/-- Turning a byte round turns its sign round. -/
theorem complement_byte_lt (x : UInt8) : 255 - x < 128 ↔ ¬ x < 128 := by
  rw [UInt8.lt_iff_toNat_lt, UInt8.lt_iff_toNat_lt, toNat_complement_byte]
  show 255 - x.toNat < 128 ↔ ¬ x.toNat < 128
  omega

theorem complement_byte_eq (x y : UInt8) : 255 - x = y ↔ x = 255 - y := by
  have hx := x.toNat_lt
  have hy := y.toNat_lt
  rw [← UInt8.toNat_inj, ← UInt8.toNat_inj, toNat_complement_byte, toNat_complement_byte]
  omega

theorem complement_complement (b : Bytes) : complement (complement b) = b := by
  unfold complement
  rw [List.map_map]
  refine (List.map_congr_left fun x _ => ?_).trans (List.map_id b)
  exact (complement_byte_eq (255 - x) x).2 rfl

theorem isMinimal_complement (b : Bytes) : isMinimal (complement b) = isMinimal b := by
  match b with
  | [] => rfl
  | [_] => rfl
  | x :: y :: rest =>
    -- The two ways to have a padding byte change places.
    have zero : (255 - x == 0) = (x == 255) := by
      rw [Bool.eq_iff_iff, beq_iff_eq, beq_iff_eq, complement_byte_eq]
      rfl
    have ones : (255 - x == 255) = (x == 0) := by
      rw [Bool.eq_iff_iff, beq_iff_eq, beq_iff_eq, complement_byte_eq]
      rfl
    have positive : decide (255 - y < 128) = decide (128 ≤ y) := by
      rw [decide_eq_decide, complement_byte_lt, UInt8.not_lt]
    have negative : decide (128 ≤ 255 - y) = decide (y < 128) := by
      rw [decide_eq_decide, ← UInt8.not_lt, complement_byte_lt, Decidable.not_not]
    show (!(255 - x == 0 && decide (255 - y < 128)) &&
        !(255 - x == 255 && decide (128 ≤ 255 - y))) =
      (!(x == 0 && decide (y < 128)) && !(x == 255 && decide (128 ≤ y)))
    rw [zero, ones, positive, negative, Bool.and_comm]

/-- An integer is read back. -/
theorem int?_ofInt (i : Int) : (ofInt i).int? = some i := by
  unfold int? contents? ofInt
  rw [if_pos rfl]
  show intOfContents? (intContents i) = some i
  cases i with
  | ofNat n =>
    have contents : intContents (Int.ofNat n) = natContents n := if_pos (Int.natCast_nonneg n)
    rw [contents, intOfContents?, if_pos (isMinimal_natContents n),
      if_pos (head?_natContents_lt n), toNat_natContents]
    rfl
  | negSucc n =>
    have rest : (-Int.negSucc n - 1).toNat = n := by omega
    have contents : intContents (Int.negSucc n) = complement (natContents n) := by
      unfold intContents
      rw [if_neg (by omega), rest]
    have sign : ¬ (complement (natContents n)).head?.any (· < 128) = true := by
      have first := head?_natContents_lt n
      cases h : natContents n with
      | nil =>
        rw [h] at first
        cases first
      | cons x tail =>
        rw [h, List.head?_cons, Option.any_some, decide_eq_true_eq] at first
        rw [complement, List.map_cons, List.head?_cons, Option.any_some, decide_eq_true_eq,
          complement_byte_lt]
        exact Decidable.not_not.2 first
    rw [contents, intOfContents?, isMinimal_complement, if_pos (isMinimal_natContents n),
      if_neg sign, complement_complement, toNat_natContents, Int.negSucc_eq]
    congr 1
    omega

theorem nat?_ofInt (n : Nat) : (ofInt n).nat? = some n := by
  unfold nat?
  rw [int?_ofInt]
  show (if (0 : Int) ≤ n then some (n : Int).toNat else none) = some n
  rw [if_pos (Int.natCast_nonneg n), Int.toNat_natCast]

theorem bytes?_ofBytes (b : Bytes) : (ofBytes b).bytes? = some b := by
  unfold bytes? contents? ofBytes
  rw [if_pos rfl]

theorem text?_ofText (s : String) : (ofText s).text? = some s := by
  unfold text? contents? ofText
  rw [if_pos rfl]
  exact Utf8.toString?_ofString s

end Element

namespace Oid

theorem readParts?_flatMap (parts : List Nat) :
    readParts? (parts.flatMap base128) = some parts := by
  induction parts with
  | nil =>
    show readParts? [] = some []
    rw [readParts?, if_pos rfl]
  | cons n parts ih =>
    have first := readBase128?_base128 n (parts.flatMap base128)
    have nonempty : base128 n ++ parts.flatMap base128 ≠ [] := by
      unfold base128
      simp
    rw [List.flatMap_cons, readParts?, if_neg nonempty]
    split
    · rename_i m rest h
      rw [first] at h
      cases h
      rw [ih]
      rfl
    · rename_i h
      rw [first] at h
      cases h

/-- An identifier that can be written is read back. -/
theorem ofElement?_toElement (o : Oid) (h : o.isProper = true) :
    ofElement? o.toElement = some o := by
  have size : o.contents.length ≤ maxLength := by
    unfold isProper at h
    simp only [Bool.and_eq_true, decide_eq_true_eq] at h
    exact h.2
  unfold ofElement? toElement Element.contents?
  rw [if_pos rfl]
  show ofContents? o.contents = some o
  rw [ofContents?, if_pos size, contents, readParts?_flatMap]
  show Option.filter isProper (some o) = some o
  rw [Option.filter_some, if_pos h]

end Oid

namespace BitString

theorem isProper_ofBytes (b : Bytes) : (ofBytes b).isProper = true := by
  unfold isProper ofBytes
  dsimp only
  split <;> simp [Nat.mod_one]

/-- A bit string is read back. -/
theorem ofElement?_toElement (tag : Tag) (s : BitString) (h : s.isProper = true) :
    ofElement? tag (s.toElement tag) = some s := by
  have count : (UInt8.ofNat s.unused).toNat = s.unused := by
    have few : s.unused ≤ 7 := by
      unfold isProper at h
      rw [Bool.and_eq_true, decide_eq_true_eq] at h
      exact h.1
    rw [UInt8.toNat_ofNat', Nat.mod_eq_of_lt (by omega)]
  unfold ofElement? toElement Element.contents? contents
  rw [if_pos rfl]
  show ofContents? (UInt8.ofNat s.unused :: s.bytes) = some s
  rw [ofContents?, count]
  exact if_pos h

theorem ofElement?_ofBytes (tag : Tag) (b : Bytes) :
    ofElement? tag ((ofBytes b).toElement tag) = some (ofBytes b) :=
  ofElement?_toElement tag (ofBytes b) (isProper_ofBytes b)

end BitString

end Der

end CertRenewal
