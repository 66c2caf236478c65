import CertRenewal.Proofs.Der

/-
  Writing undoes reading. Whatever a reader takes is what the writer beside it makes of the value
  that was read, so that there is one written form only: numbers without padding, lengths in
  their shortest form, nothing left over behind the last element. A reader of elements that is
  like this is called strict, and so is one that is put together of strict ones.
-/

namespace CertRenewal

/-! ## Shortest numbers -/

/-- A byte string that does not begin with zero is the shortest of its value. -/
theorem Bytes.ofNat_toNat {b : Bytes} (h : b.head? ≠ some 0) : ofNat (toNat b) = b := by
  induction b using List.reverseRecOn with
  | nil => exact ofNat_zero
  | append_singleton c x ih =>
    have byte := x.toNat_lt
    have low : (toNat c * 256 + x.toNat) % 256 = x.toNat := by omega
    have high : (toNat c * 256 + x.toNat) / 256 = toNat c := by omega
    have leading : ofNat (toNat c) = c := by
      by_cases empty : c = []
      · rw [empty]
        exact ofNat_zero
      · apply ih
        rwa [← head?_append_of_ne_nil empty [x]]
    have positive : toNat c * 256 + x.toNat ≠ 0 := by
      intro zero
      have nil : c = [] := by rw [← leading, show toNat c = 0 by omega, ofNat_zero]
      apply h
      rw [nil, List.nil_append, List.head?_cons, Option.some.injEq, ← UInt8.toNat_inj]
      show x.toNat = 0
      omega
    rw [toNat_append_singleton, ofNat_of_ne_zero positive, high, low, leading, UInt8.ofNat_toNat]

namespace Der

/-! ## Base 128 -/

/-- One more leading byte brings in the next seven bits. -/
theorem high_append {value : Nat} {x : UInt8} (more : ¬ x < 128)
    (positive : value * 128 + (x.toNat - 128) ≠ 0) :
    base128.high value ++ [x] = base128.high (value * 128 + (x.toNat - 128)) := by
  have byte := x.toNat_lt
  rw [UInt8.lt_iff_toNat_lt, toNat_128] at more
  have low : 128 + (value * 128 + (x.toNat - 128)) % 128 = x.toNat := by omega
  have high : (value * 128 + (x.toNat - 128)) / 128 = value := by omega
  rw [high_of_ne_zero positive, high, low, UInt8.ofNat_toNat]

/-- With the bytes that were read before, what is taken is the number in base 128. That they hold
no padding is kept from byte to byte: the first one is none, and later the value is not zero. -/
theorem eq_base128_of_readBase128From? {value n : Nat} {b rest : Bytes}
    (first : value ≠ 0 ∨ b.head? ≠ some 128) (h : readBase128From? value b = some (n, rest)) :
    base128.high value ++ b = base128 n ++ rest := by
  induction b generalizing value with
  | nil => cases h
  | cons x tail ih =>
    unfold readBase128From? at h
    split at h
    · rename_i last
      rw [UInt8.lt_iff_toNat_lt, toNat_128] at last
      obtain ⟨rfl, rfl⟩ := Prod.mk.inj (Option.some.inj h)
      have low : (value * 128 + x.toNat) % 128 = x.toNat := by omega
      have high : (value * 128 + x.toNat) / 128 = value := by omega
      rw [base128, high, low, UInt8.ofNat_toNat, List.append_assoc, List.singleton_append]
    · rename_i more
      have positive : value * 128 + (x.toNat - 128) ≠ 0 := by
        intro zero
        rw [UInt8.lt_iff_toNat_lt, toNat_128] at more
        rcases first with first | first
        · omega
        · apply first
          rw [List.head?_cons, Option.some.injEq, ← UInt8.toNat_inj, toNat_128]
          omega
      rw [← ih (.inl positive) h, ← high_append more positive, List.append_assoc,
        List.singleton_append]

theorem eq_base128_of_readBase128? {n : Nat} {b rest : Bytes}
    (h : readBase128? b = some (n, rest)) : b = base128 n ++ rest := by
  match b with
  | [] => cases h
  | x :: tail =>
    rw [readBase128?] at h
    split at h
    · cases h
    · rename_i padding
      have first : (x :: tail).head? ≠ some 128 := fun same => padding (Option.some.inj same)
      have whole := eq_base128_of_readBase128From? (.inr first) h
      rwa [high_zero, List.nil_append] at whole

/-! ## Tags -/

namespace Tag

theorem code_ofCode {n : Nat} (h : n < 4) : (TagClass.ofCode n).code = n := by
  match n, h with
  | 0, _ => rfl
  | 1, _ => rfl
  | 2, _ => rfl
  | 3, _ => rfl

/-- The three parts of the first byte of a tag make up the byte. -/
theorem lead_eq (x : UInt8) (number : Nat) :
    lead ⟨.ofCode (x.toNat / 64), x.toNat / 32 % 2 == 1, number⟩ (x.toNat % 32) = x := by
  have byte := x.toNat_lt
  have bit : (if (x.toNat / 32 % 2 == 1) = true then 32 else 0) = x.toNat / 32 % 2 * 32 := by
    by_cases one : x.toNat / 32 % 2 = 1
    · rw [one]
      rfl
    · rw [if_neg (by simpa using one), show x.toNat / 32 % 2 = 0 by omega]
  have sum : x.toNat / 64 * 64 + x.toNat / 32 % 2 * 32 + x.toNat % 32 = x.toNat := by omega
  unfold lead
  dsimp only
  rw [code_ofCode (by omega), bit, sum, UInt8.ofNat_toNat]

/-- What is read as a tag is that tag as it is written. -/
theorem eq_encode_of_read? {t : Tag} {b rest : Bytes} (h : read? b = some (t, rest)) :
    b = t.encode ++ rest ∧ t.isProper = true := by
  match b with
  | [] => cases h
  | x :: tail =>
    simp only [read?] at h
    split at h
    · rename_i small
      obtain ⟨rfl, rfl⟩ := Prod.mk.inj (Option.some.inj h)
      refine ⟨?_, decide_eq_true ?_⟩
      · unfold encode
        rw [if_pos small]
        exact congrArg (· :: tail) (lead_eq x _).symm
      · exact Nat.lt_trans small (by decide)
    · rename_i large
      have low : x.toNat % 32 = 31 := by omega
      split at h
      · rename_i number more found
        split at h
        · rename_i bounds
          obtain ⟨rfl, rfl⟩ := Prod.mk.inj (Option.some.inj h)
          obtain ⟨least, proper⟩ := Bool.and_eq_true_iff.1 bounds
          have long := lead_eq x number
          rw [low] at long
          refine ⟨?_, proper⟩
          unfold encode
          rw [if_neg (Nat.not_lt.2 (of_decide_eq_true least)), List.cons_append,
            eq_base128_of_readBase128? found]
          exact congrArg (· :: _) long.symm
        · cases h
      · cases h

end Tag

/-! ## Lengths -/

/-- What is read as a length is that length as it is written, and no longer than one can be. -/
theorem eq_encodeLength_of_readLength? {n : Nat} {b rest : Bytes}
    (h : readLength? b = some (n, rest)) : b = encodeLength n ++ rest ∧ n < lengthLimit := by
  match b with
  | [] => cases h
  | x :: tail =>
    have byte := x.toNat_lt
    simp only [readLength?] at h
    split at h
    · rename_i small
      obtain ⟨rfl, rfl⟩ := Prod.mk.inj (Option.some.inj h)
      refine ⟨?_, ?_⟩
      · rw [encodeLength, if_pos small, UInt8.ofNat_toNat, List.singleton_append]
      · exact Nat.lt_trans small (by decide +kernel)
    · rename_i large
      split at h
      · rename_i bounds
        obtain ⟨-, most, size, first, least⟩ := bounds
        obtain ⟨rfl, rfl⟩ := Prod.mk.inj (Option.some.inj h)
        refine ⟨?_, ?_⟩
        · have count : 128 + (x.toNat - 128) = x.toNat := by omega
          rw [encodeLength, if_neg (Nat.not_lt.2 least)]
          dsimp only
          rw [Bytes.ofNat_toNat first, size, count, UInt8.ofNat_toNat, List.cons_append,
            List.take_append_drop]
        · refine Nat.lt_of_lt_of_le (Bytes.toNat_lt _) ?_
          rw [size]
          exact Nat.pow_le_pow_right (by decide) most
      · cases h

/-! ## Elements -/

namespace Element

/-- What is read as an element is that element as it is written. -/
theorem eq_encode_of_read? {e : Element} {b rest : Bytes} (h : read? b = some (e, rest)) :
    b = e.encode ++ rest ∧ e.isProper = true ∧ e.Fits := by
  simp only [read?, Option.bind_eq_bind, Option.bind_eq_some_iff, Prod.exists] at h
  obtain ⟨tag, b₁, tagged, n, b₂, sized, h⟩ := h
  obtain ⟨rfl, proper⟩ := Tag.eq_encode_of_read? tagged
  obtain ⟨rfl, limit⟩ := eq_encodeLength_of_readLength? sized
  split at h
  · rename_i enough
    obtain ⟨rfl, rfl⟩ := Prod.mk.inj (Option.some.inj h)
    have size : (b₂.take n).length = n := List.length_take_of_le enough
    refine ⟨?_, proper, ?_⟩
    · simp only [encode, size, List.append_assoc, List.take_append_drop]
    · rw [Fits, size]
      exact limit
  · cases h

end Element

/-- What is read as elements in a row is these elements as they are written. -/
theorem eq_encodeAll_of_readAll? {b : Bytes} {es : List Element} (h : readAll? b = some es) :
    b = encodeAll es ∧ ∀ e ∈ es, e.isProper = true := by
  induction es generalizing b with
  | nil =>
    rw [readAll?] at h
    split at h
    · rename_i empty
      exact ⟨empty, List.forall_mem_nil _⟩
    · split at h
      · obtain ⟨_, -, more⟩ := Option.map_eq_some_iff.1 h
        cases more
      · cases h
  | cons e es ih =>
    rw [readAll?] at h
    split at h
    · cases h
    · split at h
      · rename_i first rest found
        obtain ⟨others, read, same⟩ := Option.map_eq_some_iff.1 h
        obtain ⟨rfl, rfl⟩ := List.cons.inj same
        obtain ⟨rfl, proper, -⟩ := Element.eq_encode_of_read? found
        obtain ⟨rfl, all⟩ := ih read
        exact ⟨rfl, List.forall_mem_cons.2 ⟨proper, all⟩⟩
      · cases h

theorem eq_encode_of_readOne? {b : Bytes} {e : Element} (h : readOne? b = some e) :
    b = e.encode := by
  unfold readOne? at h
  split at h
  · rename_i found
    obtain rfl := Option.some.inj h
    rw [(Element.eq_encode_of_read? found).1, List.append_nil]
  · cases h

theorem fits_of_readOne? {b : Bytes} {e : Element} (h : readOne? b = some e) : e.Fits := by
  unfold readOne? at h
  split at h
  · rename_i found
    obtain rfl := Option.some.inj h
    exact (Element.eq_encode_of_read? found).2.2
  · cases h

namespace Element

theorem eq_mk_of_contents? {tag : Tag} {e : Element} {b : Bytes}
    (h : e.contents? tag = some b) : e = ⟨tag, b⟩ := by
  unfold contents? at h
  split at h
  · rename_i same
    obtain rfl := Option.some.inj h
    rw [← same]
  · cases h

/-- An element that elements are found in is made of these elements. -/
theorem eq_node_of_children? {tag : Tag} {e : Element} {es : List Element}
    (h : e.children? tag = some es) : e = node tag es ∧ ∀ f ∈ es, f.isProper = true := by
  obtain ⟨b, contents, read⟩ := Option.bind_eq_some_iff.1 h
  obtain ⟨rfl, proper⟩ := eq_encodeAll_of_readAll? read
  exact ⟨eq_mk_of_contents? contents, proper⟩

theorem eq_node_of_inside? {tag : Tag} {e inner : Element} (h : e.inside? tag = some inner) :
    e = node tag [inner] := by
  obtain ⟨es, found, h⟩ := Option.bind_eq_some_iff.1 h
  split at h
  · obtain rfl := Option.some.inj h
    exact (eq_node_of_children? found).1
  · cases h

end Element

/-! ## Strict readers -/

/-- What is read is proper, and the element it was read from is the one that is written of it. -/
def Strict {α : Type} (read : Element → Option α) (write : α → Element) (proper : α → Bool) :
    Prop :=
  ∀ e a, read e = some a → e = write a ∧ proper a = true

/-- A list is read strictly if its members are. -/
theorem Strict.mapM {α : Type} {read : Element → Option α} {write : α → Element}
    {proper : α → Bool} (strict : Strict read write proper) {es : List Element} {l : List α}
    (h : es.mapM read = some l) : es = l.map write ∧ l.all proper = true := by
  induction es generalizing l with
  | nil =>
    obtain rfl := Option.some.inj h
    exact ⟨rfl, rfl⟩
  | cons e es ih =>
    rw [List.mapM_cons] at h
    obtain ⟨a, first, h⟩ := Option.bind_eq_some_iff.1 h
    obtain ⟨others, rest, h⟩ := Option.bind_eq_some_iff.1 h
    obtain rfl := Option.some.inj h
    obtain ⟨rfl, one⟩ := strict e a first
    obtain ⟨rfl, all⟩ := ih rest
    exact ⟨rfl, by rw [List.all_cons, one, all, Bool.and_self]⟩

/-! ## Integers -/

/-- Contents without padding that begin with a byte below 128 are those of a natural number. -/
theorem natContents_toNat {b : Bytes} (minimal : isMinimal b = true)
    (sign : b.head?.any (· < 128) = true) : natContents (Bytes.toNat b) = b := by
  match b with
  | [] => cases minimal
  | [x] =>
    have small : x < 128 := of_decide_eq_true sign
    by_cases zero : x = 0
    · have value : Bytes.toNat [x] = 0 := by rw [zero]; rfl
      rw [value, natContents, Bytes.ofNat_zero, zero]
    · have first : ([x] : Bytes).head? ≠ some 0 := fun same => zero (Option.some.inj same)
      rw [natContents, Bytes.ofNat_toNat first]
      exact if_pos small
  | x :: y :: rest =>
    have small : x < 128 := of_decide_eq_true sign
    by_cases zero : x = 0
    · have large : ¬ y < 128 := by
        rw [isMinimal, zero] at minimal
        simpa using minimal
      have value : Bytes.toNat (x :: y :: rest) = Bytes.toNat (y :: rest) := by
        rw [zero]
        simp [Bytes.toNat]
      have first : (y :: rest).head? ≠ some 0 := by
        intro same
        rw [Option.some.inj same] at large
        exact large (by decide)
      rw [value, natContents, Bytes.ofNat_toNat first, zero]
      exact if_neg large
    · have first : (x :: y :: rest).head? ≠ some 0 := fun same => zero (Option.some.inj same)
      rw [natContents, Bytes.ofNat_toNat first]
      exact if_pos small

/-- Contents that are read as an integer are those that are written of it. -/
theorem eq_intContents_of_intOfContents? {b : Bytes} {i : Int} (h : intOfContents? b = some i) :
    b = intContents i := by
  unfold intOfContents? at h
  split at h
  · rename_i minimal
    split at h
    · rename_i sign
      obtain rfl := Option.some.inj h
      rw [intContents, if_pos (Int.natCast_nonneg _), Int.toNat_natCast,
        natContents_toNat minimal sign]
    · rename_i sign
      obtain rfl := Option.some.inj h
      have positive : (complement b).head?.any (· < 128) = true := by
        match b with
        | [] => cases minimal
        | x :: tail =>
          have large : ¬ x < 128 := fun small => sign (decide_eq_true small)
          exact decide_eq_true ((Element.complement_byte_lt x).2 large)
      have value : (-(-(Bytes.toNat (complement b) : Int) - 1) - 1).toNat =
          Bytes.toNat (complement b) := by omega
      have turned : isMinimal (complement b) = true := by
        rw [Element.isMinimal_complement, minimal]
      rw [intContents, if_neg (by omega), value, natContents_toNat turned positive,
        Element.complement_complement]
  · cases h

/-! ## Values -/

namespace Element

theorem eq_ofInt_of_int? {e : Element} {i : Int} (h : e.int? = some i) : e = ofInt i := by
  obtain ⟨b, contents, read⟩ := Option.bind_eq_some_iff.1 h
  rw [eq_mk_of_contents? contents, eq_intContents_of_intOfContents? read, ofInt]

theorem eq_ofInt_of_nat? {e : Element} {n : Nat} (h : e.nat? = some n) : e = ofInt n := by
  obtain ⟨i, read, h⟩ := Option.bind_eq_some_iff.1 h
  split at h
  · rename_i positive
    obtain rfl := Option.some.inj h
    rw [Int.toNat_of_nonneg positive]
    exact eq_ofInt_of_int? read
  · cases h

theorem eq_ofBytes_of_bytes? {e : Element} {b : Bytes} (h : e.bytes? = some b) : e = ofBytes b :=
  eq_mk_of_contents? h

end Element

namespace Oid

theorem eq_flatMap_of_readParts? {b : Bytes} {parts : List Nat} (h : readParts? b = some parts) :
    b = parts.flatMap base128 := by
  induction parts generalizing b with
  | nil =>
    rw [readParts?] at h
    split at h
    · assumption
    · split at h
      · obtain ⟨_, -, more⟩ := Option.map_eq_some_iff.1 h
        cases more
      · cases h
  | cons n parts ih =>
    rw [readParts?] at h
    split at h
    · cases h
    · split at h
      · rename_i first rest found
        obtain ⟨others, read, same⟩ := Option.map_eq_some_iff.1 h
        obtain ⟨rfl, rfl⟩ := List.cons.inj same
        rw [eq_base128_of_readBase128? found, ih read, List.flatMap_cons]
      · cases h

theorem strict : Strict ofElement? toElement isProper := by
  intro e o h
  obtain ⟨b, contents, h⟩ := Option.bind_eq_some_iff.1 h
  unfold ofContents? at h
  split at h
  · obtain ⟨read, proper⟩ := Option.filter_eq_some_iff.1 h
    obtain ⟨parts, spelled, rfl⟩ := Option.map_eq_some_iff.1 read
    refine ⟨?_, proper⟩
    rw [Element.eq_mk_of_contents? contents, eq_flatMap_of_readParts? spelled]
    rfl
  · cases h

end Oid

theorem BitString.strict (tag : Tag) :
    Strict (ofElement? tag) (toElement tag) isProper := by
  intro e s h
  obtain ⟨b, found, h⟩ := Option.bind_eq_some_iff.1 h
  match b with
  | [] => cases h
  | unused :: bytes =>
    unfold ofContents? at h
    dsimp only at h
    split at h
    · rename_i proper
      obtain rfl := Option.some.inj h
      refine ⟨?_, proper⟩
      rw [Element.eq_mk_of_contents? found, toElement, contents, UInt8.ofNat_toNat]
    · cases h

end Der

end CertRenewal
