import CertRenewal.Pkcs10.Basic
import CertRenewal.Proofs.CertificateParts
import CertRenewal.Proofs.Keys

/-
  Reading undoes writing, for certification requests. The size of a request bounds the sizes of
  all its parts. Main statement: `decode?_encode`, for requests whose DNS names are ASCII.
-/

namespace CertRenewal

open Der

/-! ## Names of one common name -/

namespace Certificate

/-- A common name alone makes a name that can be written. -/
theorem Name.isProper_ofCommonName (s : String) : (ofCommonName s).isProper = true := by
  have kind : Attribute.commonName.isProper = true := by decide +kernel
  have value : Attribute.isProperValue (.ofText s) = true := by
    unfold Attribute.isProperValue Element.ofText
    dsimp only
    rw [if_neg (by decide), if_neg (by decide), if_neg (by decide)]
  simp only [isProper, ofCommonName, RelativeName.isProper, Attribute.isProper, List.all_cons,
    List.all_nil, List.map_cons, List.map_nil, inByteOrder, kind, value, Bool.and_true,
    Bool.true_and]
  rfl

/-- The common name of a name is the one it was made of. -/
theorem Name.commonName?_ofCommonName (s : String) :
    (ofCommonName s).commonName? = some s := by
  unfold commonName? ofCommonName
  dsimp only
  rw [if_pos rfl]
  exact Element.text?_ofText s

end Certificate

/-! ## Requests -/

namespace Pkcs10

namespace AltName

theorem isAscii_iff {s : String} : isAscii s = true ↔ ∀ c ∈ s.toList, c.toNat < 128 := by
  unfold isAscii
  simp only [List.all_eq_true, decide_eq_true_eq]

/-- The name has a written form: a DNS name has to be ASCII. -/
def IsPlain : AltName → Prop
  | dns name => isAscii name = true
  | address _ => True

theorem ofElement?_toElement (n : AltName) (h : n.IsPlain) : ofElement? n.toElement = some n := by
  cases n with
  | dns name =>
    unfold ofElement? toElement
    dsimp only
    rw [if_pos rfl, Utf8.toString?_ofString]
    exact if_pos h
  | address packed =>
    unfold ofElement? toElement
    dsimp only
    rw [if_neg (by decide), if_pos rfl]

/-- The names are read back from their extension. -/
theorem ofExtension?_toExtension (names : List AltName) (h : ∀ n ∈ names, n.IsPlain)
    (fits : (Element.sequence (names.map toElement)).Fits) :
    ofExtension? (toExtension names) = some names := by
  have proper : ∀ e ∈ names.map toElement, e.isProper = true := by
    intro e he
    obtain ⟨n, -, rfl⟩ := List.mem_map.1 he
    cases n <;> rfl
  have outer : readOne? (toExtension names).value = some (.sequence (names.map toElement)) :=
    readOne?_encode (.sequence (names.map toElement)) rfl fits
  have inner := Element.children?_node .sequence _ proper fits
  unfold ofExtension?
  rw [outer]
  simp only [Element.sequence, inner, Option.bind_eq_bind, Option.bind_some]
  rw [if_pos ⟨rfl, rfl⟩]
  exact mapM_map_eq_some fun n hn => ofElement?_toElement n (h n hn)

end AltName

namespace Info

/-- The names are read back from the attribute that asks for them. -/
theorem ofEntry?_altNameEntry (names : List AltName) (h : ∀ n ∈ names, n.IsPlain)
    (fits : (altNameEntry names).Fits) : ofEntry? (altNameEntry names) = some names := by
  let extension := AltName.toExtension names
  let extensions := Certificate.Extension.listToElement [extension]
  have kind : extensionRequest.isProper = true := by decide +kernel
  have writable : extension.isProper = true := by
    show AltName.kind.isProper = true
    decide +kernel
  -- from the attribute inwards: its set, the list, the extension, its value
  have proper_entry : ∀ e ∈ [extensionRequest.toElement, .node .set [extensions]],
      e.isProper = true :=
    List.all_eq_true.1 rfl
  have proper_set : ∀ e ∈ [extensions], e.isProper = true :=
    List.all_eq_true.1 rfl
  have fits_set : (Element.node .set [extensions]).Fits :=
    fits.of_mem (List.mem_cons_of_mem _ List.mem_cons_self)
  have fits_list : extensions.Fits := fits_set.of_mem List.mem_cons_self
  have fits_extension :
      (Element.node .sequence [AltName.kind.toElement, .ofBytes extension.value]).Fits :=
    fits_list.of_mem List.mem_cons_self
  have fits_value : (Element.ofBytes extension.value).Fits :=
    fits_extension.of_mem (List.mem_cons_of_mem _ List.mem_cons_self)
  have fits_names : (Element.sequence (names.map AltName.toElement)).Fits :=
    Nat.lt_of_le_of_lt (Element.length_contents_le _) fits_value
  have read_entry := Element.children?_node .sequence _ proper_entry fits
  have read_set := Element.children?_node .set _ proper_set fits_set
  have read_list : Certificate.Extension.listOfElement? extensions = some [extension] :=
    Certificate.Extension.listOfElement?_listToElement [extension]
      (List.forall_mem_singleton.2 writable) fits_list
  unfold ofEntry?
  rw [show altNameEntry names =
    .node .sequence [extensionRequest.toElement, .node .set [extensions]] from rfl, read_entry]
  simp only [Oid.ofElement?_toElement _ kind, read_set, only?, read_list, Option.bind_eq_bind,
    Option.bind_some, if_true]
  exact AltName.ofExtension?_toExtension names h fits_names

/-- What a signature covers is read back. -/
theorem ofElement?_toElement (i : Info) (h : ∀ n ∈ i.altNames, n.IsPlain)
    (fits : i.toElement.Fits) : ofElement? i.toElement = some i := by
  obtain ⟨commonName, publicKey, altNames⟩ := i
  let name := Certificate.Name.ofCommonName commonName
  have algorithm : publicKey.toInfo.algorithm.isProper = true := by
    show Certificate.Algorithm.isProper
      ⟨Certificate.Algorithm.rsaEncryption, some .null⟩ = true
    decide +kernel
  have known : publicKey.toInfo.isProper = true := by
    unfold Certificate.PublicKey.isProper
    rw [algorithm, Bool.true_and]
    exact BitString.isProper_ofBytes _
  have proper : ∀ e ∈ [.ofInt 0, name.toElement, publicKey.toInfo.toElement,
      .node attributesTag [altNameEntry altNames]], e.isProper = true :=
    List.all_eq_true.1 rfl
  have proper_attributes : ∀ e ∈ [altNameEntry altNames], e.isProper = true :=
    List.all_eq_true.1 rfl
  have fits_name : name.toElement.Fits :=
    fits.of_mem (List.mem_cons_of_mem _ List.mem_cons_self)
  have fits_key : publicKey.toInfo.toElement.Fits :=
    fits.of_mem (List.mem_cons_of_mem _ (List.mem_cons_of_mem _ List.mem_cons_self))
  have fits_attributes : (Element.node attributesTag [altNameEntry altNames]).Fits :=
    fits.of_mem (List.mem_cons_of_mem _ (List.mem_cons_of_mem _
      (List.mem_cons_of_mem _ List.mem_cons_self)))
  have fits_bits : (publicKey.toInfo.bits.toElement .bitString).Fits :=
    fits_key.of_mem (List.mem_cons_of_mem _ List.mem_cons_self)
  have fits_numbers : publicKey.toElement.Fits := by
    have bits : publicKey.toElement.encode.length + 1 < lengthLimit := fits_bits
    have contents := publicKey.toElement.length_contents_le
    unfold Element.Fits
    omega
  have read := Element.children?_node .sequence _ proper fits
  have read_attributes := Element.children?_node attributesTag _ proper_attributes fits_attributes
  have read_name := Certificate.Name.ofElement?_toElement name
    (Certificate.Name.isProper_ofCommonName commonName) fits_name
  have read_info : Certificate.PublicKey.ofElement? publicKey.toInfo.toElement =
      some publicKey.toInfo :=
    Certificate.PublicKey.ofElement?_toElement _ known fits_key
  have read_key := Rsa.PublicKey.ofInfo?_toInfo publicKey fits_numbers
  have read_entry := ofEntry?_altNameEntry altNames h (fits_attributes.of_mem List.mem_cons_self)
  have version : (Element.ofInt 0).int? = some 0 := Element.int?_ofInt 0
  have common : name.commonName? = some commonName :=
    Certificate.Name.commonName?_ofCommonName commonName
  unfold ofElement?
  rw [show toElement ⟨commonName, publicKey, altNames⟩ = .node .sequence [.ofInt 0,
    name.toElement, publicKey.toInfo.toElement, .node attributesTag [altNameEntry altNames]]
    from rfl, read]
  simp only [version, read_name, common, read_info, read_key, read_attributes, only?, read_entry,
    Option.bind_eq_bind, Option.bind_some, if_true]

end Info

namespace Request

/-- A request is read back from its element. -/
theorem ofElement?_toElement (r : Request) (h : ∀ n ∈ r.info.altNames, n.IsPlain)
    (fits : r.toElement.Fits) : ofElement? r.toElement = some r := by
  have kind : algorithm.isProper = true := by decide +kernel
  have proper : ∀ e ∈ [r.info.toElement, algorithm.toElement,
      (BitString.ofBytes r.signature).toElement .bitString], e.isProper = true :=
    List.all_eq_true.1 rfl
  have read := Element.children?_node .sequence _ proper fits
  have read_info := Info.ofElement?_toElement r.info h (fits.of_mem List.mem_cons_self)
  have read_kind := Certificate.Algorithm.ofElement?_toElement algorithm kind
    (fits.of_mem (List.mem_cons_of_mem _ List.mem_cons_self))
  unfold ofElement? toElement Element.sequence
  rw [read]
  simp only [read_info, read_kind, BitString.ofElement?_ofBytes, Option.bind_eq_bind,
    Option.bind_some]
  rw [if_pos ⟨trivial, rfl⟩]
  rfl

/-- A request is read back from its bytes. -/
theorem decode?_encode (r : Request) (h : ∀ n ∈ r.info.altNames, n.IsPlain)
    (fits : r.encode.length < lengthLimit) : decode? r.encode = some r := by
  have small : r.toElement.Fits := Nat.lt_of_le_of_lt r.toElement.length_contents_le fits
  unfold decode? encode
  rw [readOne?_encode r.toElement rfl small]
  exact ofElement?_toElement r h small

end Request

end Pkcs10

end CertRenewal
