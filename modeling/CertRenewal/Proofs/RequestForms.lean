import CertRenewal.Proofs.DerForms
import CertRenewal.Proofs.Requests

/-
  Certification requests as bytes. The grammar spells every identifier and every kind of element
  out, from the request down to the characters of a name, and takes none of them from the writer.
  Main statements: `hasOne_isRequest`, what is written is the one byte string that the grammar has
  for a request, and `IsRequest.unique`, a byte string is the written form of one request only.
-/

namespace CertRenewal.Pkcs10

open Der

/-! ## The grammar -/

/-- A written alternative name: a DNS name (kind 2), a byte for each of its characters, which are
ASCII, or the packed bytes of an address (kind 7). -/
inductive IsName : AltName → Bytes → Prop where
  | dns {name : String} {ascii b : Bytes}
      (characters : List.Forall₂ (fun c x => x < 128 ∧ c.toNat = x.toNat) name.toList ascii)
      (element : IsElement 0x82 ascii b) : IsName (.dns name) b
  | address {packed b : Bytes} (element : IsElement 0x87 packed b) : IsName (.address packed) b

/-- A written subject: one set of one attribute, which is the common name (2.5.4.3) in UTF-8. -/
def IsSubject (commonName : String) : Bytes → Prop :=
  IsNode 0x30 [IsNode 0x31 [IsNode 0x30 [(· = [0x06, 0x03, 0x55, 0x04, 0x03]),
    IsElement 0x0C (commonName.toList.flatMap String.utf8EncodeChar)]]]

/-- A written public key: that it is for RSA (1.2.840.113549.1.1.1, with no parameters), and in a
bit string, with no bit unused, its modulus and its exponent. -/
def IsPublicKey (k : Rsa.PublicKey) : Bytes → Prop :=
  IsNode 0x30
    [(· = [0x30, 0x0D, 0x06, 0x09, 0x2A, 0x86, 0x48, 0x86, 0xF7, 0x0D, 0x01, 0x01, 0x01,
        0x05, 0x00]),
      IsNode 0x03 [(· = [0x00]), IsNode 0x30 [IsInteger k.modulus, IsInteger k.exponent]]]

/-- Written alternative names of a subject: the only extension (2.5.29.17, not critical) that is
asked for in the only attribute (1.2.840.113549.1.9.14). -/
def AreAltNames (names : List AltName) : Bytes → Prop :=
  IsNode 0xA0
    [IsNode 0x30
      [(· = [0x06, 0x09, 0x2A, 0x86, 0x48, 0x86, 0xF7, 0x0D, 0x01, 0x09, 0x0E]),
        IsNode 0x31 [IsNode 0x30 [IsNode 0x30 [(· = [0x06, 0x03, 0x55, 0x1D, 0x11]),
          IsNode 0x04 [IsNode 0x30 (names.map IsName)]]]]]]

/-- What the signature covers, as it is written: version 0, the subject, its key and its names. -/
def IsInfo (i : Info) : Bytes → Prop :=
  IsNode 0x30 [(· = [0x02, 0x01, 0x00]), IsSubject i.commonName, IsPublicKey i.publicKey,
    AreAltNames i.altNames]

/-- A written request: what the signature covers, that it is one of RSA with SHA-256
(1.2.840.113549.1.1.11, with no parameters), and the signature in a bit string. -/
def IsRequest (r : Request) : Bytes → Prop :=
  IsNode 0x30
    [IsInfo r.info,
      (· = [0x30, 0x0D, 0x06, 0x09, 0x2A, 0x86, 0x48, 0x86, 0xF7, 0x0D, 0x01, 0x01, 0x0B,
        0x05, 0x00]),
      IsElement 0x03 (0x00 :: r.signature)]

/-! ## The writer -/

theorem sequence_encode : Tag.sequence.encode = [0x30] := by decide

theorem set_encode : Tag.set.encode = [0x31] := by decide

/-- A byte for each character is what an ASCII text has in UTF-8. -/
theorem forall₂_byte_iff {s : String} {ascii : Bytes} :
    List.Forall₂ (fun c x => x < 128 ∧ c.toNat = x.toNat) s.toList ascii ↔
      AltName.isAscii s = true ∧ ascii = Utf8.ofString s := by
  have byte : ∀ (c : Char) (x : UInt8),
      x < 128 ∧ c.toNat = x.toNat ↔ c.toNat < 128 ∧ UInt8.ofNat c.toNat = x := by
    intro c x
    rw [UInt8.lt_iff_toNat_lt, toNat_128]
    constructor
    · rintro ⟨small, same⟩
      rw [same, UInt8.ofNat_toNat]
      exact ⟨small, rfl⟩
    · rintro ⟨small, rfl⟩
      rw [UInt8.toNat_ofNat', Nat.mod_eq_of_lt (by omega)]
      exact ⟨small, rfl⟩
  simp only [byte, List.forall₂_and_left]
  rw [← List.forall₂_map_left_iff, List.forall₂_eq_eq_eq, AltName.isAscii_iff]
  refine and_congr_right fun small => ?_
  rw [Utf8.ofString, Utf8.encode_of_lt small, eq_comm]

/-- A name that can be written has one written form. -/
theorem hasOne_isName (n : AltName) (plain : n.IsPlain) :
    HasOne (IsName n) n.toElement.encode := by
  have dns : AltName.dnsTag.encode = [0x82] := by decide
  have address : AltName.addressTag.encode = [0x87] := by decide
  cases n with
  | dns name =>
    have one := hasOne_isElement dns (Utf8.ofString name)
    refine ⟨fun b written => ?_, fun small => ?_⟩
    · cases written with
      | dns characters element =>
        obtain ⟨-, rfl⟩ := forall₂_byte_iff.1 characters
        exact one.only b element
    · exact .dns (forall₂_byte_iff.2 ⟨plain, rfl⟩) (one.holds small)
  | address packed =>
    have one := hasOne_isElement address packed
    refine ⟨fun b written => ?_, fun small => .address (one.holds small)⟩
    cases written with
    | address element => exact one.only b element

theorem isPlain_of_isName {n : AltName} {b : Bytes} (h : IsName n b) : n.IsPlain := by
  cases h with
  | dns characters => exact (forall₂_byte_iff.1 characters).1
  | address => trivial

theorem hasOne_isSubject (commonName : String) :
    HasOne (IsSubject commonName) (Certificate.Name.ofCommonName commonName).toElement.encode := by
  have utf8String : Tag.utf8String.encode = [0x0C] := by decide
  have kind : Certificate.Attribute.commonName.toElement.encode =
      [0x06, 0x03, 0x55, 0x04, 0x03] := by decide +kernel
  have text : HasOne _ (Element.ofText commonName).encode :=
    hasOne_isElement utf8String (Utf8.ofString commonName)
  have named := hasOne_isNode_node sequence_encode (.cons (hasOne_of_eq kind) (.cons text .nil))
  have relative := hasOne_isNode_node set_encode (.cons named .nil)
  exact hasOne_isNode_node sequence_encode (.cons relative .nil)

theorem hasOne_isPublicKey (k : Rsa.PublicKey) :
    HasOne (IsPublicKey k) k.toInfo.toElement.encode := by
  have bitString : Tag.bitString.encode = [0x03] := by decide
  have kind : k.toInfo.algorithm.toElement.encode =
      [0x30, 0x0D, 0x06, 0x09, 0x2A, 0x86, 0x48, 0x86, 0xF7, 0x0D, 0x01, 0x01, 0x01,
        0x05, 0x00] := by
    show Element.encode (Certificate.Algorithm.toElement
      ⟨Certificate.Algorithm.rsaEncryption, some .null⟩) = _
    decide +kernel
  have numbers : HasOne _ k.toElement.encode :=
    hasOne_isNode_node sequence_encode
      (.cons (hasOne_isInteger k.modulus) (.cons (hasOne_isInteger k.exponent) .nil))
  have unused : HasOne (· = [0x00]) [0x00] := hasOne_of_eq rfl
  have bits : HasOne _ ((BitString.ofBytes k.toElement.encode).toElement .bitString).encode :=
    hasOne_isNode bitString (.cons unused (.cons numbers .nil))
      (congrArg (0x00 :: ·) (List.append_nil _))
  exact hasOne_isNode_node sequence_encode (.cons (hasOne_of_eq kind) (.cons bits .nil))

theorem hasOne_areAltNames (names : List AltName) (plain : ∀ n ∈ names, n.IsPlain) :
    HasOne (AreAltNames names)
      (Element.node Info.attributesTag [Info.altNameEntry names]).encode := by
  have octetString : Tag.octetString.encode = [0x04] := by decide
  have attributes : Info.attributesTag.encode = [0xA0] := by decide
  have asked : Info.extensionRequest.toElement.encode =
      [0x06, 0x09, 0x2A, 0x86, 0x48, 0x86, 0xF7, 0x0D, 0x01, 0x09, 0x0E] := by decide +kernel
  have kind : AltName.kind.toElement.encode = [0x06, 0x03, 0x55, 0x1D, 0x11] := by decide +kernel
  have each : List.Forall₂ (fun form e => HasOne form e.encode) (names.map IsName)
      (names.map AltName.toElement) := by
    rw [List.forall₂_map_left_iff, List.forall₂_map_right_iff, List.forall₂_same]
    exact fun n mem => hasOne_isName n (plain n mem)
  -- from the names outwards: the value of the extension, the extension, the list, the attribute
  have value := hasOne_isNode_node sequence_encode each
  have octets : HasOne _ (Element.ofBytes (AltName.toExtension names).value).encode :=
    hasOne_isNode octetString (.cons value .nil) (List.append_nil _)
  have extension :=
    hasOne_isNode_node sequence_encode (.cons (hasOne_of_eq kind) (.cons octets .nil))
  have extensions := hasOne_isNode_node sequence_encode (.cons extension .nil)
  have values := hasOne_isNode_node set_encode (.cons extensions .nil)
  have entry := hasOne_isNode_node sequence_encode (.cons (hasOne_of_eq asked) (.cons values .nil))
  exact hasOne_isNode_node attributes (.cons entry .nil)

theorem hasOne_isInfo (i : Info) (plain : ∀ n ∈ i.altNames, n.IsPlain) :
    HasOne (IsInfo i) i.encode := by
  have version : (Element.ofInt 0).encode = [0x02, 0x01, 0x00] := by decide +kernel
  exact hasOne_isNode_node sequence_encode
    (.cons (hasOne_of_eq version) (.cons (hasOne_isSubject i.commonName)
      (.cons (hasOne_isPublicKey i.publicKey) (.cons (hasOne_areAltNames i.altNames plain) .nil))))

/-- What is written for a request whose names can be written is the one byte string that the
grammar has for it. -/
theorem hasOne_isRequest (r : Request) (plain : ∀ n ∈ r.info.altNames, n.IsPlain) :
    HasOne (IsRequest r) r.encode := by
  have bitString : Tag.bitString.encode = [0x03] := by decide
  have kind : Request.algorithm.toElement.encode =
      [0x30, 0x0D, 0x06, 0x09, 0x2A, 0x86, 0x48, 0x86, 0xF7, 0x0D, 0x01, 0x01, 0x0B,
        0x05, 0x00] := by
    decide +kernel
  have signature : HasOne _ ((BitString.ofBytes r.signature).toElement .bitString).encode :=
    hasOne_isElement bitString _
  exact hasOne_isNode_node sequence_encode
    (.cons (hasOne_isInfo r.info plain) (.cons (hasOne_of_eq kind) (.cons signature .nil)))

/-! ## Reading -/

namespace IsRequest

variable {r other : Request} {b : Bytes}

/-- The subject of a written request stands in it. -/
theorem subject_infix (h : IsRequest r b) :
    (Certificate.Name.ofCommonName r.info.commonName).toElement.encode <:+: b := by
  obtain ⟨part, info, inside⟩ := h.exists_infix List.mem_cons_self
  obtain ⟨subject, written, inner⟩ :=
    IsNode.exists_infix info (List.mem_cons_of_mem _ List.mem_cons_self)
  rw [← (hasOne_isSubject r.info.commonName).only subject written]
  exact inner.trans inside

/-- The names of a written request, with what says what they are, stand in it. -/
theorem exists_altNames_infix (h : IsRequest r b) :
    ∃ names, AreAltNames r.info.altNames names ∧ names <:+: b := by
  obtain ⟨part, info, inside⟩ := h.exists_infix List.mem_cons_self
  obtain ⟨names, written, inner⟩ := IsNode.exists_infix info
    (List.mem_cons_of_mem _ (List.mem_cons_of_mem _ (List.mem_cons_of_mem _ List.mem_cons_self)))
  exact ⟨names, written, inner.trans inside⟩

/-- Every name of a written request can be written. -/
theorem isPlain (h : IsRequest r b) : ∀ n ∈ r.info.altNames, n.IsPlain := by
  obtain ⟨_, attributes, -⟩ := h.exists_altNames_infix
  -- from the attributes inwards, down to the row of the names
  obtain ⟨_, entry, -⟩ := IsNode.exists_infix attributes List.mem_cons_self
  obtain ⟨_, values, -⟩ := IsNode.exists_infix entry (List.mem_cons_of_mem _ List.mem_cons_self)
  obtain ⟨_, extensions, -⟩ := IsNode.exists_infix values List.mem_cons_self
  obtain ⟨_, extension, -⟩ := IsNode.exists_infix extensions List.mem_cons_self
  obtain ⟨_, octets, -⟩ := IsNode.exists_infix extension (List.mem_cons_of_mem _ List.mem_cons_self)
  obtain ⟨_, names, -⟩ := IsNode.exists_infix octets List.mem_cons_self
  intro n mem
  obtain ⟨_, written, -⟩ := IsNode.exists_infix names (List.mem_map_of_mem mem)
  exact isPlain_of_isName written

theorem altNames_infix (h : IsRequest r b) :
    (Element.node Info.attributesTag [Info.altNameEntry r.info.altNames]).encode <:+: b := by
  obtain ⟨names, written, inside⟩ := h.exists_altNames_infix
  rwa [← (hasOne_areAltNames r.info.altNames h.isPlain).only names written]

/-- A byte string that is not too long is the written form of one request only. -/
theorem unique (small : b.length < lengthLimit) (h : IsRequest r b) (h' : IsRequest other b) :
    other = r := by
  obtain rfl := (hasOne_isRequest r h.isPlain).only b h
  have same := (hasOne_isRequest other h'.isPlain).only _ h'
  have read := Request.decode?_encode r h.isPlain small
  rw [same, Request.decode?_encode other h'.isPlain (same ▸ small)] at read
  exact Option.some.inj read

end IsRequest

end CertRenewal.Pkcs10
