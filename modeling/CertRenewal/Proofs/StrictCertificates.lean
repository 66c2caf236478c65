import CertRenewal.Proofs.Certificates
import CertRenewal.Proofs.LaterBlocks
import CertRenewal.Proofs.StrictDer

/-
  Writing undoes reading, for certificates. Every part is read strictly, so the bytes that a
  certificate was read from are those it is written as: `decode?_eq_some_iff` says exactly which
  bytes are a certificate's. Main statement: `load_strict`, for the texts that certificates are
  loaded from. What the first block of such a text spells is the certificate as it is written,
  no other bytes give the same certificate, and with bytes cut off or put behind they give none.
-/

namespace CertRenewal

open Der

/-! ## Digits -/

namespace Decimal

/-- Digits are those of the number they spell, at their own width. -/
theorem padded_value {s : List Char} (h : s.all isDigit = true) :
    padded s.length (value s) = s ∧ value s < 10 ^ s.length := by
  induction s using List.reverseRecOn with
  | nil => exact ⟨rfl, Nat.one_pos⟩
  | append_singleton s c ih =>
    rw [List.all_append, Bool.and_eq_true, List.all_cons, List.all_nil, Bool.and_true] at h
    obtain ⟨spelled, bound⟩ := ih h.1
    have small := digitValue_lt h.2
    have low : (value s * 10 + digitValue c) % 10 = digitValue c := by omega
    have high : (value s * 10 + digitValue c) / 10 = value s := by omega
    rw [value_append_singleton, List.length_append, List.length_singleton]
    refine ⟨?_, ?_⟩
    · rw [padded, high, low, spelled, digit_digitValue h.2]
    · rw [Nat.pow_succ]
      omega

end Decimal

namespace Certificate

/-! ## Algorithms, extensions and names -/

theorem Algorithm.eq_cons_of_ofElements? {es : List Element} {a : Algorithm}
    (h : ofElements? es = some a) : es = a.oid.toElement :: a.parameters.toList := by
  unfold ofElements? at h
  split at h
  · obtain ⟨oid, read, h⟩ := Option.bind_eq_some_iff.1 h
    obtain rfl := Option.some.inj h
    rw [(Oid.strict _ _ read).1]
    rfl
  · obtain ⟨oid, read, h⟩ := Option.bind_eq_some_iff.1 h
    obtain rfl := Option.some.inj h
    rw [(Oid.strict _ _ read).1]
    rfl
  · cases h

theorem Algorithm.strict : Strict ofElement? toElement isProper := by
  intro e a h
  obtain ⟨es, found, h⟩ := Option.bind_eq_some_iff.1 h
  obtain ⟨b, parts, h⟩ := Option.bind_eq_some_iff.1 h
  split at h
  · rename_i proper
    obtain rfl := Option.some.inj h
    refine ⟨?_, proper⟩
    rw [(Element.eq_node_of_children? found).1, eq_cons_of_ofElements? parts]
    rfl
  · cases h

theorem PublicKey.strict : Strict ofElement? toElement isProper := by
  intro e k h
  obtain ⟨es, found, h⟩ := Option.bind_eq_some_iff.1 h
  split at h
  · obtain ⟨algorithm, known, h⟩ := Option.bind_eq_some_iff.1 h
    obtain ⟨bits, read, h⟩ := Option.bind_eq_some_iff.1 h
    obtain rfl := Option.some.inj h
    obtain ⟨rfl, first⟩ := Algorithm.strict _ _ known
    obtain ⟨rfl, second⟩ := BitString.strict _ _ _ read
    exact ⟨(Element.eq_node_of_children? found).1, Bool.and_eq_true_iff.2 ⟨first, second⟩⟩
  · cases h

theorem Extension.strict : Strict ofElement? toElement isProper := by
  intro e x h
  obtain ⟨es, found, h⟩ := Option.bind_eq_some_iff.1 h
  have whole := (Element.eq_node_of_children? found).1
  split at h
  · obtain ⟨kind, known, h⟩ := Option.bind_eq_some_iff.1 h
    obtain ⟨value, read, h⟩ := Option.bind_eq_some_iff.1 h
    obtain rfl := Option.some.inj h
    obtain ⟨rfl, proper⟩ := Oid.strict _ _ known
    obtain rfl := Element.eq_ofBytes_of_bytes? read
    exact ⟨whole, proper⟩
  · obtain ⟨kind, known, h⟩ := Option.bind_eq_some_iff.1 h
    obtain ⟨value, read, h⟩ := Option.bind_eq_some_iff.1 h
    split at h
    · rename_i marked
      obtain rfl := Option.some.inj h
      obtain ⟨rfl, proper⟩ := Oid.strict _ _ known
      obtain rfl := Element.eq_ofBytes_of_bytes? read
      rw [marked] at whole
      exact ⟨whole, proper⟩
    · cases h
  · cases h

theorem Extension.strict_list : Strict listOfElement? listToElement (·.all isProper) := by
  intro e xs h
  obtain ⟨es, found, h⟩ := Option.bind_eq_some_iff.1 h
  obtain ⟨rfl, proper⟩ := Extension.strict.mapM h
  exact ⟨(Element.eq_node_of_children? found).1, proper⟩

theorem Attribute.strict : Strict ofElement? toElement isProper := by
  intro e a h
  obtain ⟨es, found, h⟩ := Option.bind_eq_some_iff.1 h
  obtain ⟨whole, members⟩ := Element.eq_node_of_children? found
  split at h
  · rename_i kind value
    obtain ⟨oid, known, h⟩ := Option.bind_eq_some_iff.1 h
    split at h
    · rename_i allowed
      obtain rfl := Option.some.inj h
      obtain ⟨rfl, proper⟩ := Oid.strict _ _ known
      have written : value.isProper = true :=
        members value (List.mem_cons_of_mem _ List.mem_cons_self)
      refine ⟨whole, ?_⟩
      unfold isProper
      rw [proper, written, allowed]
      rfl
    · cases h
  · cases h

theorem RelativeName.strict : Strict ofElement? toElement isProper := by
  intro e r h
  obtain ⟨es, found, h⟩ := Option.bind_eq_some_iff.1 h
  split at h
  · rename_i order
    obtain ⟨rfl, proper⟩ := Attribute.strict.mapM h
    exact ⟨(Element.eq_node_of_children? found).1, Bool.and_eq_true_iff.2 ⟨order, proper⟩⟩
  · cases h

theorem Name.strict : Strict ofElement? toElement isProper := by
  intro e n h
  obtain ⟨es, found, h⟩ := Option.bind_eq_some_iff.1 h
  obtain ⟨rfl, proper⟩ := RelativeName.strict.mapM h
  exact ⟨(Element.eq_node_of_children? found).1, proper⟩

/-! ## Times -/

namespace Timestamp

/-- A number that was read is spelled by as many digits as were asked for. -/
theorem eq_append_of_number? {width n : Nat} {s rest : List Char}
    (h : number? width s = some (n, rest)) :
    s = Decimal.padded width n ++ rest ∧ n < 10 ^ width := by
  obtain ⟨value, read, h⟩ := Option.bind_eq_some_iff.1 h
  split at h
  · rename_i enough
    obtain ⟨rfl, rfl⟩ := Prod.mk.inj (Option.some.inj h)
    unfold Decimal.value? at read
    split at read
    · rename_i digits
      obtain rfl := Option.some.inj read
      obtain ⟨spelled, bound⟩ := Decimal.padded_value digits.2
      rw [List.length_take_of_le enough] at spelled bound
      rw [spelled, List.take_append_drop]
      exact ⟨rfl, bound⟩
    · cases read
  · cases h

/-- The fields after a year are those that were read, each with two digits, and nothing else. -/
theorem eq_restChars_of_ofRest? {year : Nat} {s : List Char} {t : CalendarSecond}
    (h : ofRest? year s = some t) : s = restChars t ∧ t.isValid = true ∧ t.year = year := by
  simp only [ofRest?, Option.bind_eq_bind, Option.bind_eq_some_iff, Prod.exists] at h
  obtain ⟨month, s₁, read_month, day, s₂, read_day, hour, s₃, read_hour, minute, s₄, read_minute,
    second, s₅, read_second, h⟩ := h
  split at h
  · rename_i checked
    obtain rfl := Option.some.inj h
    obtain ⟨rfl, valid⟩ := checked
    refine ⟨?_, valid, rfl⟩
    rw [(eq_append_of_number? read_month).1, (eq_append_of_number? read_day).1,
      (eq_append_of_number? read_hour).1, (eq_append_of_number? read_minute).1,
      (eq_append_of_number? read_second).1, restChars]
  · cases h

/-- The year that two digits stand for ends in these digits and can be said in the short form. -/
theorem padded_pivot {n : Nat} (h : n < 100) :
    Decimal.padded 2 (pivot n) = Decimal.padded 2 n ∧ 1950 ≤ pivot n ∧ pivot n ≤ 2049 := by
  have ones : pivot n % 10 = n % 10 := by
    unfold pivot
    split <;> omega
  have tens : pivot n / 10 % 10 = n / 10 % 10 := by
    unfold pivot
    split <;> omega
  refine ⟨?_, ?_⟩
  · rw [Decimal.padded, Decimal.padded, Decimal.padded, Decimal.padded, ones, tens]
    rfl
  · unfold pivot
    split <;> omega

theorem eq_chars_of_ofChars? {form : TimeForm} {s : List Char} {t : Timestamp}
    (h : ofChars? form s = some t) :
    t.form = form ∧ s = t.yearChars ++ restChars t.second ∧ t.isProper = true := by
  match form with
  | .short =>
    simp only [ofChars?, Option.bind_eq_bind, Option.bind_eq_some_iff, Prod.exists] at h
    obtain ⟨digits, rest, read, second, fields, h⟩ := h
    obtain rfl := Option.some.inj h
    obtain ⟨rfl, bound⟩ := eq_append_of_number? read
    obtain ⟨rfl, valid, year⟩ := eq_restChars_of_ofRest? fields
    obtain ⟨same, least, most⟩ := padded_pivot bound
    refine ⟨rfl, ?_, ?_⟩
    · rw [yearChars]
      dsimp only
      rw [year, same]
    · rw [isProper, valid]
      dsimp only
      rw [year, decide_eq_true least, decide_eq_true most]
      rfl
  | .long =>
    simp only [ofChars?, Option.bind_eq_bind, Option.bind_eq_some_iff, Prod.exists] at h
    obtain ⟨digits, rest, read, second, fields, h⟩ := h
    obtain rfl := Option.some.inj h
    obtain ⟨rfl, -⟩ := eq_append_of_number? read
    obtain ⟨rfl, valid, year⟩ := eq_restChars_of_ofRest? fields
    refine ⟨rfl, ?_, ?_⟩
    · rw [yearChars]
      dsimp only
      rw [year]
    · rw [isProper, valid]
      rfl

theorem strict : Strict ofElement? toElement isProper := by
  intro e t h
  obtain ⟨s, text, h⟩ := Option.bind_eq_some_iff.1 h
  have contents := Utf8.eq_encode_of_decode? text
  obtain ⟨tag, bytes⟩ := e
  split at h
  · rename_i short
    obtain ⟨form, rfl, proper⟩ := eq_chars_of_ofChars? h
    refine ⟨?_, proper⟩
    rw [toElement, form, ← contents]
    exact congrArg (Element.mk · bytes) short
  · split at h
    · rename_i long
      obtain ⟨form, rfl, proper⟩ := eq_chars_of_ofChars? h
      refine ⟨?_, proper⟩
      rw [toElement, form, ← contents]
      exact congrArg (Element.mk · bytes) long
    · cases h

end Timestamp

theorem Validity.strict : Strict ofElement? toElement isProper := by
  intro e v h
  obtain ⟨es, found, h⟩ := Option.bind_eq_some_iff.1 h
  split at h
  · obtain ⟨notBefore, read_first, h⟩ := Option.bind_eq_some_iff.1 h
    obtain ⟨notAfter, read_last, h⟩ := Option.bind_eq_some_iff.1 h
    obtain rfl := Option.some.inj h
    obtain ⟨rfl, first⟩ := Timestamp.strict _ _ read_first
    obtain ⟨rfl, last⟩ := Timestamp.strict _ _ read_last
    exact ⟨(Element.eq_node_of_children? found).1, Bool.and_eq_true_iff.2 ⟨first, last⟩⟩
  · cases h

/-! ## Fields that may be missing -/

theorem eq_append_of_takeTagged {tag : Tag} {es rest : List Element} {o : Option Element}
    (h : takeTagged tag es = (o, rest)) : es = o.toList ++ rest := by
  unfold takeTagged at h
  split at h
  · obtain ⟨rfl, rfl⟩ := Prod.mk.inj h
    rfl
  · split at h
    · obtain ⟨rfl, rfl⟩ := Prod.mk.inj h
      rfl
    · obtain ⟨rfl, rfl⟩ := Prod.mk.inj h
      rfl

/-- A field that may be missing is read strictly if it is when it is there. -/
theorem eq_map_of_readOptional? {α : Type} {read : Element → Option α} {write : α → Element}
    {proper : α → Bool} (strict : Strict read write proper) {o : Option Element}
    {field : Option α} (h : readOptional? read o = some field) :
    o = field.map write ∧ field.all proper = true := by
  match o with
  | none =>
    obtain rfl := Option.some.inj h
    exact ⟨rfl, rfl⟩
  | some e =>
    obtain ⟨a, found, rfl⟩ := Option.map_eq_some_iff.1 h
    obtain ⟨rfl, proper⟩ := strict e a found
    exact ⟨rfl, proper⟩

theorem strict_version :
    Strict version? versionToElement fun n => decide (1 ≤ n ∧ n ≤ 255) := by
  intro e n h
  obtain ⟨inner, found, h⟩ := Option.bind_eq_some_iff.1 h
  obtain ⟨m, read, h⟩ := Option.bind_eq_some_iff.1 h
  split at h
  · rename_i range
    obtain rfl := Option.some.inj h
    refine ⟨?_, decide_eq_true range⟩
    rw [Element.eq_node_of_inside? found, Element.eq_ofInt_of_nat? read]
    rfl
  · cases h

theorem strict_extensions :
    Strict extensions? extensionsToElement (·.all Extension.isProper) := by
  intro e xs h
  obtain ⟨inner, found, h⟩ := Option.bind_eq_some_iff.1 h
  obtain ⟨rfl, proper⟩ := Extension.strict_list _ _ h
  exact ⟨Element.eq_node_of_inside? found, proper⟩

/-! ## Bodies and certificates -/

namespace Body

/-- The version that was found is the one that is written. -/
theorem writtenVersion_eq {b : Body} {found : Option Nat}
    (range : found.all (fun n => decide (1 ≤ n ∧ n ≤ 255)) = true)
    (h : b.version = found.getD 0) : b.writtenVersion = found ∧ b.version ≤ 255 := by
  match found with
  | none => exact ⟨if_pos h, h ▸ Nat.zero_le 255⟩
  | some n =>
    have bounds : 1 ≤ n ∧ n ≤ 255 := of_decide_eq_true range
    have same : b.version = n := h
    refine ⟨?_, same ▸ bounds.2⟩
    rw [writtenVersion, if_neg (by omega), same]

/-- The elements of a body that was read are those of its fields, with nothing between them and
nothing behind. -/
theorem eq_toElements_of_ofElements? {es : List Element} {b : Body}
    (h : ofElements? es = some b) : es = b.toElements ∧ b.isProper = true := by
  unfold ofElements? at h
  rcases first : takeTagged versionTag es with ⟨version, rest⟩
  rw [first] at h
  dsimp only at h
  split at h
  · rename_i serial algorithm issuer validity subject publicKey rest
    rcases second : takeTagged issuerIdTag rest with ⟨issuerId, rest⟩
    rw [second] at h
    dsimp only at h
    rcases third : takeTagged subjectIdTag rest with ⟨subjectId, rest⟩
    rw [third] at h
    dsimp only at h
    rcases fourth : takeTagged extensionsTag rest with ⟨extensions, rest⟩
    rw [fourth] at h
    simp only [Option.bind_eq_bind, Option.bind_eq_some_iff] at h
    obtain ⟨found, read_version, i, read_serial, a, read_algorithm, by_name, read_issuer, v,
      read_validity, for_name, read_subject, k, read_publicKey, issuer_bits, read_issuerId,
      subject_bits, read_subjectId, xs, read_extensions, h⟩ := h
    split at h
    · rename_i nothing
      obtain ⟨rfl, range⟩ := eq_map_of_readOptional? strict_version read_version
      obtain rfl := Element.eq_ofInt_of_int? read_serial
      obtain ⟨rfl, proper_algorithm⟩ := Algorithm.strict _ _ read_algorithm
      obtain ⟨rfl, proper_issuer⟩ := Name.strict _ _ read_issuer
      obtain ⟨rfl, proper_validity⟩ := Validity.strict _ _ read_validity
      obtain ⟨rfl, proper_subject⟩ := Name.strict _ _ read_subject
      obtain ⟨rfl, proper_publicKey⟩ := PublicKey.strict _ _ read_publicKey
      obtain ⟨rfl, proper_issuerId⟩ := eq_map_of_readOptional? (BitString.strict _) read_issuerId
      obtain ⟨rfl, proper_subjectId⟩ := eq_map_of_readOptional? (BitString.strict _) read_subjectId
      obtain ⟨rfl, proper_extensions⟩ := eq_map_of_readOptional? strict_extensions read_extensions
      have version : b.version = found.getD 0 := by
        rw [← Option.some.inj h]
      obtain ⟨same, most⟩ := writtenVersion_eq range version
      obtain rfl := Option.some.inj h
      refine ⟨?_, ?_⟩
      · rw [toElements_eq, same, lastElements, eq_append_of_takeTagged first,
          eq_append_of_takeTagged second, eq_append_of_takeTagged third,
          eq_append_of_takeTagged fourth, nothing, List.append_nil]
      · simp only [isProper, Bool.and_eq_true, decide_eq_true_eq]
        exact ⟨⟨⟨⟨⟨⟨⟨⟨most, proper_algorithm⟩, proper_issuer⟩, proper_validity⟩, proper_subject⟩,
          proper_publicKey⟩, proper_issuerId⟩, proper_subjectId⟩, proper_extensions⟩
    · cases h
  · cases h

theorem strict : Strict ofElement? toElement isProper := by
  intro e b h
  obtain ⟨es, found, h⟩ := Option.bind_eq_some_iff.1 h
  obtain ⟨rfl, proper⟩ := eq_toElements_of_ofElements? h
  exact ⟨(Element.eq_node_of_children? found).1, proper⟩

end Body

theorem strict : Strict ofElement? toElement isProper := by
  intro e c h
  obtain ⟨es, found, h⟩ := Option.bind_eq_some_iff.1 h
  split at h
  · obtain ⟨body, read_body, h⟩ := Option.bind_eq_some_iff.1 h
    obtain ⟨algorithm, read_algorithm, h⟩ := Option.bind_eq_some_iff.1 h
    obtain ⟨signature, read_signature, h⟩ := Option.bind_eq_some_iff.1 h
    obtain rfl := Option.some.inj h
    obtain ⟨rfl, proper_body⟩ := Body.strict _ _ read_body
    obtain ⟨rfl, proper_algorithm⟩ := Algorithm.strict _ _ read_algorithm
    obtain ⟨rfl, proper_signature⟩ := BitString.strict _ _ _ read_signature
    refine ⟨(Element.eq_node_of_children? found).1, ?_⟩
    unfold isProper
    rw [proper_body, proper_algorithm, proper_signature]
    rfl
  · cases h

/-- The bytes of a certificate are those it is written as, if it is such as the format admits and
its contents are not too long. There are no others. -/
theorem decode?_eq_some_iff {der : Bytes} {c : Certificate} :
    decode? der = some c ↔
      c.isProper = true ∧ c.toElement.contents.length < maxContents ∧ der = c.encode := by
  constructor
  · intro h
    obtain ⟨e, found, h⟩ := Option.bind_eq_some_iff.1 h
    split at h
    · rename_i contents
      obtain ⟨rfl, proper⟩ := strict e c h
      exact ⟨proper, contents, eq_encode_of_readOne? found⟩
    · cases h
  · rintro ⟨proper, contents, rfl⟩
    exact decode?_encode_of_contents c proper contents

/-- Neither the beginning of a certificate nor a certificate with more behind it is one. -/
theorem decode?_eq_none_of_part {der other : Bytes} {c : Certificate}
    (h : decode? der = some c) (ne : other ≠ der) (part : other <+: der ∨ der <+: other) :
    decode? other = none := by
  obtain ⟨-, small, rfl⟩ := decode?_eq_some_iff.1 h
  have limit : maxContents ≤ lengthLimit := by decide +kernel
  -- Of two certificates the longer one is read as the shorter one with something left over.
  have longer : ∀ (a b : Certificate) (s : Bytes), a.toElement.Fits → b.toElement.Fits →
      a.encode ++ s = b.encode → a.encode = b.encode := by
    intro a b s fits_a fits_b same
    have first := Element.read?_encode a.toElement rfl fits_a s
    have second := Element.read?_encode b.toElement rfl fits_b []
    rw [List.append_nil] at second
    have both := first.symm.trans ((congrArg Element.read? same).trans second)
    obtain rfl : s = [] := congrArg Prod.snd (Option.some.inj both)
    rwa [List.append_nil] at same
  rw [Option.eq_none_iff_forall_ne_some]
  intro d found
  obtain ⟨-, small_d, rfl⟩ := decode?_eq_some_iff.1 found
  have fits_c : c.toElement.Fits := Nat.lt_of_lt_of_le small limit
  have fits_d : d.toElement.Fits := Nat.lt_of_lt_of_le small_d limit
  rcases part with ⟨s, same⟩ | ⟨s, same⟩
  · exact ne (longer d c s fits_d fits_c same)
  · exact ne (longer c d s fits_c fits_d same).symm

end Certificate

/-! ## The text of a certificate -/

theorem Pem.content?_eq_some_iff {text : List Char} {content : Bytes} :
    content? text = some content ↔ Spells text content := by
  constructor
  · exact spells_of_content?
  · rintro ⟨headers, spelled⟩
    unfold content?
    dsimp only
    rw [if_pos (List.all_eq_true.2 headers), spelled]
    exact Base64.decode_encode content

namespace Certificate

/-- The first block of the text is one of a certificate, and its body spells the byte string. -/
def Carries (data der : Bytes) : Prop :=
  ∃ text rest, HasFirstBody data (Utf8.encode text) rest ∧ Pem.Spells text der

/-- A block that is written carries what is in it. -/
theorem carries_write (der : Bytes) : Carries (Pem.write (block der)) der := by
  obtain ⟨-, -, text, body, spelled⟩ :=
    Pem.Frame.eq_of_block? (Pem.block?_frame (block der) (isLabel_block der))
  exact ⟨text, [10], body ▸ hasFirstBody_write der, spelled⟩

section Carried

variable {data der : Bytes} {c : Certificate}

/-- What the first body spells is all that its certificate depends on, if the blocks behind it are
in order. -/
theorem HasFirstBody.ofBlocks?_eq {text : List Char} {rest : Bytes}
    (first : HasFirstBody data (Utf8.encode text) rest) (spelled : Pem.Spells text der) :
    ∃ block, locate data = .ok block ∧
      ofBlocks? block = (Pem.read? rest).bind fun _ => decode? der := by
  obtain ⟨l, located, frame⟩ := first.exists_frame
  have ordered : Pem.Frame.block? ⟨label, Utf8.encode text, label⟩ = some (block der) := by
    have read : Utf8.toString? label = some "CERTIFICATE" := Utf8.toString?_ofString _
    unfold Pem.Frame.block?
    simp only [read, Utf8.decode?_encode, Option.bind_eq_bind, Option.bind_some]
    rw [if_pos (by decide), Pem.content?_eq_some_iff.2 spelled]
    rfl
  refine ⟨_, located, ?_⟩
  rw [ofBlocks?_of_nextFrame? frame, ordered]
  rfl

theorem Carries.ofBlocks?_eq (h : Carries data der) :
    ∃ block rest, locate data = .ok block ∧
      ofBlocks? block = (Pem.read? rest).bind fun _ => decode? der := by
  obtain ⟨text, rest, first, spelled⟩ := h
  obtain ⟨block, located, blocks⟩ := first.ofBlocks?_eq spelled
  exact ⟨block, rest, located, blocks⟩

theorem Carries.decode?_of_load (h : Carries data der) (loaded : load data = .ok c) :
    decode? der = some c := by
  obtain ⟨block, rest, located, blocks⟩ := h.ofBlocks?_eq
  rw [load_of_locate_ok located, blocks] at loaded
  split at loaded
  · cases loaded
  · rename_i found
    split at loaded
    · obtain rfl := Except.ok.inj loaded
      exact (Option.bind_eq_some_iff.1 found).choose_spec.2
    · cases loaded

theorem Carries.load_eq_malformed (h : Carries data der) (none : decode? der = none) :
    load data = .error (.unreadable .malformed) := by
  obtain ⟨block, rest, located, blocks⟩ := h.ofBlocks?_eq
  have nothing : ofBlocks? block = Option.none := by
    rw [blocks, none, Option.bind_fun_none]
  rw [load_of_locate_ok located, nothing]

end Carried

/-- The first block of a text that a certificate was loaded from spells that certificate as it is
written, which is one that the format admits; nothing else is decoded to it. Texts that carry
other bytes do not load it, and where these are a part of its bytes from the beginning, or have
its bytes at theirs, such a text is malformed. -/
theorem load_strict {data : Bytes} {c : Certificate} (h : load data = .ok c) :
    Carries data c.encode ∧ (∀ der, Carries data der → der = c.encode) ∧ c.isProper = true ∧
      (∀ der, decode? der = some c ↔ der = c.encode) ∧
      ∀ other der, Carries other der →
        (load other = .ok c → der = c.encode) ∧
        (der ≠ c.encode → der <+: c.encode ∨ c.encode <+: der →
          load other = .error (.unreadable .malformed)) := by
  obtain ⟨text, rest, der, body, spelled, decoded⟩ := exists_body_of_load h
  obtain ⟨proper, small, rfl⟩ := decode?_eq_some_iff.1 decoded
  have written : ∀ {other der}, Carries other der → load other = .ok c → der = c.encode := by
    intro other der carried loaded
    exact (decode?_eq_some_iff.1 (carried.decode?_of_load loaded)).2.2
  refine ⟨⟨text, rest, body, spelled⟩, ?_, proper, ?_, ?_⟩
  · intro der carried
    exact written carried h
  · intro der
    rw [decode?_eq_some_iff, and_iff_right proper, and_iff_right small]
  · intro other der carried
    refine ⟨written carried, ?_⟩
    intro ne part
    exact carried.load_eq_malformed (decode?_eq_none_of_part decoded ne part)

/-- The text of a certificate carries it as it is written; without its last byte, and with a zero
behind it, it is malformed. -/
theorem load_strict_sampleText :
    Carries sampleText (sample 2 ⟨.short, ⟨2027, 1, 1, 0, 0, 0⟩⟩).encode ∧
      load (Pem.write (block (sample 2 ⟨.short, ⟨2027, 1, 1, 0, 0, 0⟩⟩).encode.dropLast)) =
        .error (.unreadable .malformed) ∧
      load (Pem.write (block ((sample 2 ⟨.short, ⟨2027, 1, 1, 0, 0, 0⟩⟩).encode ++ [0]))) =
        .error (.unreadable .malformed) := by
  obtain ⟨carried, -, -, -, others⟩ := load_strict load_sampleText
  refine ⟨carried, ?_, ?_⟩
  · exact (others _ _ (carries_write _)).2 (by decide +kernel) (.inl (List.dropLast_prefix _))
  · refine (others _ _ (carries_write _)).2 ?_ (.inr (List.prefix_append _ _))
    intro same
    exact absurd (List.self_eq_append_right.1 same.symm) (List.cons_ne_nil _ _)

end Certificate

end CertRenewal
