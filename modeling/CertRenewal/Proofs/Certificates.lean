import CertRenewal.Proofs.CertificateParts
import CertRenewal.Proofs.Decisions

/-
  Reading undoes writing, for certificates. Four fields of a certificate may be missing, and each
  is known by a tag of its own, which no field after it has; so they are taken off the row of
  elements one after another. Main statement: `expiration_write`, the end of a certificate that
  was written is told to the second, and a policy asks nothing else of it.
-/

namespace CertRenewal

open Der

namespace Certificate

/-! ## Fields that may be missing -/

section Optional

variable {α : Type} {tag : Tag} {write : α → Element} {field : Option α}

/-- What is written of a field has the tag of the field. -/
theorem tag_eq_of_mem (own : ∀ a, (write a).tag = tag) {e : Element}
    (h : e ∈ (field.map write).toList) : e.tag = tag := by
  rw [Option.mem_toList, Option.map_eq_some_iff] at h
  obtain ⟨a, -, rfl⟩ := h
  exact own a

/-- A field is taken off when it is there, and nothing else is. -/
theorem takeTagged_append (own : ∀ a, (write a).tag = tag) {rest : List Element}
    (other : ∀ e ∈ rest.head?, e.tag ≠ tag) :
    takeTagged tag ((field.map write).toList ++ rest) = (field.map write, rest) := by
  cases field with
  | some a => exact if_pos (own a)
  | none =>
    cases rest with
    | nil => rfl
    | cons e rest => exact if_neg (other e rfl)

theorem readOptional?_map {read : Element → Option α} (h : ∀ a ∈ field, read (write a) = some a) :
    readOptional? read (field.map write) = some field := by
  cases field with
  | none => rfl
  | some a =>
    show (read (write a)).map some = some (some a)
    rw [h a rfl]
    rfl

end Optional

/-- What stands alone inside a tag is found there. -/
theorem inside?_node (tag : Tag) (inner : Element) (h : inner.isProper = true)
    (fits : (Element.node tag [inner]).Fits) :
    (Element.node tag [inner]).inside? tag = some inner := by
  have read := Element.children?_node tag [inner] (List.forall_mem_singleton.2 h) fits
  unfold Element.inside?
  rw [read]
  rfl

/-- A version as an element with its tag. -/
def versionToElement (n : Nat) : Element := .node versionTag [.ofInt n]

/-- Extensions as an element with their tag. -/
def extensionsToElement (xs : List Extension) : Element :=
  .node extensionsTag [Extension.listToElement xs]

theorem version?_versionToElement {n : Nat} (h : 1 ≤ n ∧ n ≤ 255)
    (fits : (versionToElement n).Fits) : version? (versionToElement n) = some n := by
  unfold version? versionToElement
  rw [inside?_node versionTag (.ofInt n) rfl fits]
  simp only [Option.bind_eq_bind, Option.bind_some, Element.nat?_ofInt]
  exact if_pos h

theorem extensions?_extensionsToElement {xs : List Extension} (h : ∀ x ∈ xs, x.isProper = true)
    (fits : (extensionsToElement xs).Fits) :
    extensions? (extensionsToElement xs) = some xs := by
  have small : (Extension.listToElement xs).Fits := fits.of_mem List.mem_cons_self
  unfold extensions? extensionsToElement
  rw [inside?_node extensionsTag (Extension.listToElement xs) rfl fits]
  exact Extension.listOfElement?_listToElement xs h small

/-! ## Bodies -/

namespace Body

/-- The version, where it is written. -/
def writtenVersion (b : Body) : Option Nat := if b.version = 0 then none else some b.version

/-- The elements behind the last field that is always there. -/
def lastElements (b : Body) : List Element :=
  (b.issuerId.map (BitString.toElement issuerIdTag)).toList ++
    ((b.subjectId.map (BitString.toElement subjectIdTag)).toList ++
      (b.extensions.map extensionsToElement).toList)

theorem toElements_eq (b : Body) :
    b.toElements =
      (b.writtenVersion.map versionToElement).toList ++
        (.ofInt b.serial :: b.algorithm.toElement :: b.issuer.toElement :: b.validity.toElement ::
          b.subject.toElement :: b.publicKey.toElement :: b.lastElements) := by
  unfold toElements writtenVersion
  by_cases h : b.version = 0
  · rw [if_pos h, if_pos h]
    simp only [List.append_assoc, List.cons_append, List.nil_append]
    rfl
  · rw [if_neg h, if_neg h]
    simp only [List.append_assoc, List.cons_append, List.nil_append]
    rfl

theorem isProper_of_mem {b : Body} {e : Element} (h : e ∈ b.toElements) : e.isProper = true := by
  rw [toElements_eq, lastElements] at h
  simp only [List.mem_append, List.mem_cons, Option.mem_toList, Option.map_eq_some_iff] at h
  rcases h with ⟨n, -, rfl⟩ | rfl | rfl | rfl | rfl | rfl | rfl | ⟨s, -, rfl⟩ | ⟨s, -, rfl⟩ |
    ⟨xs, -, rfl⟩ <;> rfl

/-- The version is taken off, if it is there. -/
theorem takeTagged_version (b : Body) :
    takeTagged versionTag b.toElements =
      (b.writtenVersion.map versionToElement,
        .ofInt b.serial :: b.algorithm.toElement :: b.issuer.toElement :: b.validity.toElement ::
          b.subject.toElement :: b.publicKey.toElement :: b.lastElements) := by
  have version : ∀ n, (versionToElement n).tag = versionTag := fun _ => rfl
  have serial : Tag.integer ≠ versionTag := by decide
  rw [toElements_eq]
  refine takeTagged_append version fun e he => ?_
  cases he
  exact serial

/-- The last fields are taken off one after another. -/
theorem takeTagged_lastElements (b : Body) :
    takeTagged issuerIdTag b.lastElements =
        (b.issuerId.map (BitString.toElement issuerIdTag),
          (b.subjectId.map (BitString.toElement subjectIdTag)).toList ++
            (b.extensions.map extensionsToElement).toList) ∧
      takeTagged subjectIdTag
          ((b.subjectId.map (BitString.toElement subjectIdTag)).toList ++
            (b.extensions.map extensionsToElement).toList) =
        (b.subjectId.map (BitString.toElement subjectIdTag),
          (b.extensions.map extensionsToElement).toList) ∧
      takeTagged extensionsTag (b.extensions.map extensionsToElement).toList =
        (b.extensions.map extensionsToElement, []) := by
  have issuer : ∀ s, (BitString.toElement issuerIdTag s).tag = issuerIdTag := fun _ => rfl
  have subject : ∀ s, (BitString.toElement subjectIdTag s).tag = subjectIdTag := fun _ => rfl
  have extensions : ∀ xs, (extensionsToElement xs).tag = extensionsTag := fun _ => rfl
  refine ⟨?_, ?_, ?_⟩
  · refine takeTagged_append issuer fun e he => ?_
    rcases List.mem_append.1 (List.mem_of_mem_head? he) with he | he
    · rw [tag_eq_of_mem subject he]
      decide
    · rw [tag_eq_of_mem extensions he]
      decide
  · refine takeTagged_append subject fun e he => ?_
    rw [tag_eq_of_mem extensions (List.mem_of_mem_head? he)]
    decide
  · rw [← List.append_nil (Option.toList _)]
    exact takeTagged_append extensions fun e he => by cases he

theorem readOptional?_version {b : Body} (h : b.version ≤ 255)
    (fits : ∀ e ∈ (b.writtenVersion.map versionToElement).toList, e.Fits) :
    readOptional? version? (b.writtenVersion.map versionToElement) = some b.writtenVersion := by
  refine readOptional?_map fun n hn => ?_
  have written := Option.mem_toList.2 (Option.mem_map_of_mem versionToElement hn)
  have range : 1 ≤ n ∧ n ≤ 255 := by
    unfold writtenVersion at hn
    split at hn
    · cases hn
    · cases hn
      omega
  exact version?_versionToElement range (fits _ written)

theorem readOptional?_bitString (tag : Tag) {field : Option BitString}
    (h : field.all BitString.isProper = true) :
    readOptional? (BitString.ofElement? tag) (field.map (BitString.toElement tag)) = some field :=
  readOptional?_map fun s hs =>
    BitString.ofElement?_toElement tag s ((Option.all_eq_true _ _).1 h s hs)

theorem readOptional?_extensions {field : Option (List Extension)}
    (h : field.all (·.all Extension.isProper) = true)
    (fits : ∀ e ∈ (field.map extensionsToElement).toList, e.Fits) :
    readOptional? extensions? (field.map extensionsToElement) = some field := by
  refine readOptional?_map fun xs hxs => ?_
  have written := Option.mem_toList.2 (Option.mem_map_of_mem extensionsToElement hxs)
  have proper := List.all_eq_true.1 ((Option.all_eq_true _ _).1 h xs hxs)
  exact extensions?_extensionsToElement proper (fits _ written)

theorem getD_writtenVersion (b : Body) : b.writtenVersion.getD 0 = b.version := by
  unfold writtenVersion
  split
  · rename_i zero
    exact zero.symm
  · rfl

/-- The fields of a body are read back from its elements. -/
theorem ofElements?_toElements (b : Body) (h : b.isProper = true)
    (fits : ∀ e ∈ b.toElements, e.Fits) : ofElements? b.toElements = some b := by
  obtain ⟨⟨⟨⟨⟨⟨⟨⟨version, algorithm⟩, issuer⟩, validity⟩, subject⟩, publicKey⟩, issuerId⟩,
      subjectId⟩, extensions⟩ :
      (((((((b.version ≤ 255 ∧ b.algorithm.isProper = true) ∧ b.issuer.isProper = true) ∧
        b.validity.isProper = true) ∧ b.subject.isProper = true) ∧
        b.publicKey.isProper = true) ∧ b.issuerId.all BitString.isProper = true) ∧
        b.subjectId.all BitString.isProper = true) ∧
        b.extensions.all (·.all Extension.isProper) = true := by
    unfold isProper at h
    simpa only [Bool.and_eq_true, decide_eq_true_eq] using h
  rw [toElements_eq, lastElements] at fits
  simp only [List.forall_mem_append, List.forall_mem_cons] at fits
  obtain ⟨fits_version, -, fits_algorithm, fits_issuer, fits_validity, fits_subject,
    fits_publicKey, -, -, fits_extensions⟩ := fits
  obtain ⟨take_issuerId, take_subjectId, take_extensions⟩ := b.takeTagged_lastElements
  unfold ofElements?
  simp only [takeTagged_version, take_issuerId, take_subjectId, take_extensions,
    readOptional?_version version fits_version, readOptional?_bitString _ issuerId,
    readOptional?_bitString _ subjectId, readOptional?_extensions extensions fits_extensions,
    Element.int?_ofInt, Algorithm.ofElement?_toElement _ algorithm fits_algorithm,
    Name.ofElement?_toElement _ issuer fits_issuer,
    Validity.ofElement?_toElement _ validity fits_validity,
    Name.ofElement?_toElement _ subject fits_subject,
    PublicKey.ofElement?_toElement _ publicKey fits_publicKey, getD_writtenVersion,
    Option.bind_eq_bind, Option.bind_some]
  exact if_pos trivial

/-- A body is read back from its element. -/
theorem ofElement?_toElement (b : Body) (h : b.isProper = true) (fits : b.toElement.Fits) :
    ofElement? b.toElement = some b := by
  have proper : ∀ e ∈ b.toElements, e.isProper = true := fun e he => isProper_of_mem he
  have read := Element.children?_node .sequence _ proper fits
  unfold ofElement? toElement Element.sequence
  rw [read]
  exact ofElements?_toElements b h fun e he => fits.of_mem he

end Body

/-! ## Certificates -/

/-- A certificate is read back from its element. -/
theorem ofElement?_toElement (c : Certificate) (h : c.isProper = true) (fits : c.toElement.Fits) :
    ofElement? c.toElement = some c := by
  obtain ⟨⟨body, algorithm⟩, signature⟩ : (c.body.isProper = true ∧
      c.algorithm.isProper = true) ∧ c.signature.isProper = true := by
    unfold isProper at h
    simpa only [Bool.and_eq_true] using h
  have proper : ∀ e ∈ [c.body.toElement, c.algorithm.toElement,
      c.signature.toElement .bitString], e.isProper = true :=
    List.all_eq_true.1 rfl
  have read := Element.children?_node .sequence _ proper fits
  have read_body := Body.ofElement?_toElement c.body body (fits.of_mem List.mem_cons_self)
  have read_algorithm := Algorithm.ofElement?_toElement c.algorithm algorithm
    (fits.of_mem (List.mem_cons_of_mem _ List.mem_cons_self))
  unfold ofElement? toElement Element.sequence
  simp only [read, read_body, read_algorithm,
    BitString.ofElement?_toElement .bitString c.signature signature, Option.bind_eq_bind,
    Option.bind_some]

/-- A certificate is read back from its bytes, if its contents are not too long. -/
theorem decode?_encode_of_contents (c : Certificate) (h : c.isProper = true)
    (contents : c.toElement.contents.length < maxContents) : decode? c.encode = some c := by
  have fits : c.toElement.Fits := Nat.lt_of_lt_of_le contents (by decide +kernel)
  unfold decode? encode
  rw [readOne?_encode c.toElement rfl fits]
  exact (if_pos contents).trans (ofElement?_toElement c h fits)

theorem decode?_encode (c : Certificate) (h : c.isProper = true)
    (small : c.encode.length < maxContents) : decode? c.encode = some c :=
  decode?_encode_of_contents c h (Nat.lt_of_le_of_lt c.toElement.length_contents_le small)

/-! ## The end of a certificate -/

/-- A certificate as the format admits it, with a version that certificates can have and an end
in a year of the calendar, and small enough to be written. -/
structure IsAdmitted (c : Certificate) : Prop where
  proper : c.isProper = true
  known : c.IsKnown
  year : 1 ≤ c.lastSecond.year
  small : c.encode.length < 2 ^ 32

theorem holds_write {c : Certificate} (h : c.IsAdmitted) :
    Holds (Pem.write (block c.encode)) c := by
  rw [holds_write_iff]
  exact decode?_encode c h.proper h.small

theorem expiration_of_isAdmitted {c : Certificate} (h : c.IsAdmitted) :
    expiration (Pem.write (block c.encode)) = .ok c.lastSecond := by
  rw [expiration_of_holds (holds_write h), if_pos h.known, if_neg (Nat.one_le_iff_ne_zero.1 h.year)]

/-- From the text of a certificate the certificate is loaded again as it was, with its end to the
second, and two certificates with the same end are the same to every policy at every time,
whatever else they hold, in whichever form they name it, and whatever key lies beside them. -/
theorem expiration_write (c : Certificate) (h : c.IsAdmitted) :
    decode? c.encode = some c ∧
      load (Pem.write (block c.encode)) = .ok c ∧
      expiration (Pem.write (block c.encode)) = .ok c.lastSecond ∧
      ∀ other : Certificate, other.IsAdmitted → other.lastSecond = c.lastSecond →
        ∀ (p : Rotation.Policy) (key otherKey : Bytes) (now : Present),
          p.evaluate (some ⟨Pem.write (block other.encode), otherKey⟩) now =
            p.evaluate (some ⟨Pem.write (block c.encode), key⟩) now := by
  refine ⟨decode?_encode c h.proper h.small, ?_, expiration_of_isAdmitted h, ?_⟩
  · rw [load_of_holds (holds_write h), if_pos h.known]
  · intro other admitted same p key otherKey now
    refine Rotation.evaluate_congr_pair p now ?_
    rw [expiration_of_isAdmitted h, ← same]
    exact expiration_of_isAdmitted admitted

/-- A certificate of the third version with every field that may be missing, an empty list of
extensions, a negative number, and its times in the long form. -/
def fullSample : Certificate where
  body :=
    { version := 2
      serial := -129
      algorithm := ⟨Algorithm.sha256WithRsa, some .null⟩
      issuer := [[⟨Attribute.commonName, .ofText "ca"⟩,
        ⟨.ofArcs [2, 5, 4, 6], ⟨.printableString, [68, 69]⟩⟩], []]
      validity := ⟨⟨.long, ⟨1949, 12, 31, 23, 59, 59⟩⟩, ⟨.long, ⟨2027, 1, 1, 0, 0, 0⟩⟩⟩
      subject := []
      publicKey := ⟨⟨Algorithm.rsaEncryption, some .null⟩, .ofBytes (List.replicate 300 1)⟩
      issuerId := some ⟨3, [8]⟩
      subjectId := some ⟨0, []⟩
      extensions := some [] }
  algorithm := ⟨Algorithm.sha256WithRsa, some .null⟩
  signature := ⟨7, [128]⟩

/-- It is read back, and is the same to a policy as the sample of the first version with its times
in the short form. -/
theorem expiration_write_fullSample :
    fullSample.IsAdmitted ∧ (sample 0 ⟨.short, ⟨2027, 1, 1, 0, 0, 0⟩⟩).IsAdmitted ∧
      load (Pem.write (block fullSample.encode)) = .ok fullSample ∧
      Rotation.Policy.standard.evaluate
          (some ⟨Pem.write (block (sample 0 ⟨.short, ⟨2027, 1, 1, 0, 0, 0⟩⟩).encode), []⟩)
          (.named ⟨⟨2026, 1, 1, 0, 0, 0⟩, 0, none⟩) =
        Rotation.Policy.standard.evaluate
          (some ⟨Pem.write (block fullSample.encode), [1]⟩)
          (.named ⟨⟨2026, 1, 1, 0, 0, 0⟩, 0, none⟩) := by
  have full : fullSample.IsAdmitted :=
    ⟨by decide +kernel, .inr rfl, by decide, by decide +kernel⟩
  have short : (sample 0 ⟨.short, ⟨2027, 1, 1, 0, 0, 0⟩⟩).IsAdmitted :=
    ⟨by decide +kernel, .inl rfl, by decide, by decide +kernel⟩
  obtain ⟨-, loaded, -, alike⟩ := expiration_write fullSample full
  exact ⟨full, short, loaded, alike _ short rfl _ _ _ _⟩

end Certificate

end CertRenewal
