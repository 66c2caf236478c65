import CertRenewal.Der.Value

/-
  The parameters of algorithms. What may stand behind the identifier of an algorithm depends on
  the algorithm; the table at the end says it for the algorithms of keys, signatures, digests and
  password based encryption, and of any other algorithm one element of any kind may stand there.
  Only forms are looked at: a modulus may be any natural number, and a salt any byte string of
  its length.
-/

namespace CertRenewal.Certificate

open Der

/-! ## Forms -/

/-- A form that an element has or has not. -/
abbrev Form := Element → Bool

/-- A place in a sequence. One that may stay empty is known by the tag of what belongs there. -/
inductive Field where
  | required (form : Form)
  | optional (tag : Tag) (form : Form)

namespace Form

/-- The element that says that there is no value. -/
def null : Form := fun e => e == Element.null

/-- A natural number. -/
def natural : Form := fun e => e.nat?.isSome

/-- A natural number of at most so many bits. -/
def naturalOfBits (bits : Nat) : Form := fun e => e.nat?.any (· < 1 <<< bits)

/-- A byte string. -/
def octets : Form := fun e => e.bytes?.isSome

/-- A byte string of a given length. -/
def octetsOfLength (n : Nat) : Form := fun e => e.bytes?.any (·.length == n)

/-- A bit string. -/
def bits : Form := fun e => (BitString.ofElement? .bitString e).isSome

/-- An object identifier. -/
def identifier : Form := fun e => (Oid.ofElement? e).isSome

/-- A sequence, whatever it holds. -/
def anySequence : Form := fun e => e.tag == .sequence

/-- A form inside an element with a given tag. -/
def inside (tag : Tag) (form : Form) : Form := fun e => (e.inside? tag).any form

/-- A form, with the exception of one element. -/
def otherThan (excluded : Element) (form : Form) : Form := fun e => e != excluded && form e

/-- Elements fill the places of a sequence, in order and with none left over. -/
def fill : List Field → List Element → Bool
  | [], es => es.isEmpty
  | .required _ :: _, [] => false
  | .required form :: fields, e :: es => form e && fill fields es
  | .optional .. :: fields, [] => fill fields []
  | .optional tag form :: fields, e :: es =>
    if e.tag = tag then form e && fill fields es else fill fields (e :: es)

/-- A sequence with the given places. -/
def sequenceOf (fields : List Field) : Form := fun e =>
  (e.children? .sequence).any (fill fields)

/-- A sequence that an identifier opens, which says what may follow. -/
def definedBy (follows : Oid → List Element → Bool) : Form := fun e =>
  match e.children? .sequence with
  | some (oid :: rest) => (Oid.ofElement? oid).any fun oid => follows oid rest
  | _ => false

end Form

/-! ## Algorithms -/

namespace Algorithm

/-- Keys for RSA. -/
def rsaEncryption : Oid := .ofArcs [1, 2, 840, 113549, 1, 1, 1]

/-- Signatures with RSA over a SHA-256 digest. -/
def sha256WithRsa : Oid := .ofArcs [1, 2, 840, 113549, 1, 1, 11]

/-- RSA signatures with probabilistic padding. -/
def rsaPss : Oid := .ofArcs [1, 2, 840, 113549, 1, 1, 10]

/-- The mask that goes with probabilistic padding. -/
def maskGeneration : Oid := .ofArcs [1, 2, 840, 113549, 1, 1, 8]

/-- The SHA-1 digest. -/
def sha1 : Oid := .ofArcs [1, 3, 14, 3, 2, 26]

/-- The SHA-256 digest. -/
def sha256 : Oid := .ofArcs [2, 16, 840, 1, 101, 3, 4, 2, 1]

/-- Message authentication with a SHA-1 digest. -/
def macWithSha1 : Oid := .ofArcs [1, 2, 840, 113549, 2, 7]

/-- The fields over which a curve is taken whose elements are numbers below a prime. -/
def primeField : Oid := .ofArcs [1, 2, 840, 10045, 1, 1]

/-- The fields over which a curve is taken whose elements are polynomials over two values. -/
def binaryField : Oid := .ofArcs [1, 2, 840, 10045, 1, 2]

/-- A proof of possession that signs nothing. -/
def unsigned : Oid := .ofArcs [1, 3, 6, 1, 5, 5, 7, 6, 36]

/-- Digests of the SHA families, those of the third under both of their identifiers. -/
def digests : List Oid :=
  [sha1, .ofArcs [2, 16, 840, 1, 101, 3, 4, 2, 4], sha256,
    .ofArcs [2, 16, 840, 1, 101, 3, 4, 2, 2], .ofArcs [2, 16, 840, 1, 101, 3, 4, 2, 3],
    .ofArcs [2, 16, 840, 1, 101, 3, 4, 2, 7], .ofArcs [2, 16, 840, 1, 101, 3, 4, 2, 8],
    .ofArcs [2, 16, 840, 1, 101, 3, 4, 2, 9], .ofArcs [2, 16, 840, 1, 101, 3, 4, 2, 10],
    .ofArcs [1, 3, 6, 1, 4, 1, 37476, 3, 2, 1, 99, 7, 224],
    .ofArcs [1, 3, 6, 1, 4, 1, 37476, 3, 2, 1, 99, 7, 256],
    .ofArcs [1, 3, 6, 1, 4, 1, 37476, 3, 2, 1, 99, 7, 384],
    .ofArcs [1, 3, 6, 1, 4, 1, 37476, 3, 2, 1, 99, 7, 512]]

/-- Message authentication with digests of the SHA families. -/
def macs : List Oid :=
  [macWithSha1, .ofArcs [1, 2, 840, 113549, 2, 8], .ofArcs [1, 2, 840, 113549, 2, 9],
    .ofArcs [1, 2, 840, 113549, 2, 10], .ofArcs [1, 2, 840, 113549, 2, 11]]

/-- RSA keys and RSA signatures over digests of the SHA families. -/
def rsaFamily : List Oid :=
  [rsaEncryption, .ofArcs [1, 2, 840, 113549, 1, 1, 5], .ofArcs [1, 3, 14, 3, 2, 29],
    .ofArcs [1, 2, 840, 113549, 1, 1, 14], sha256WithRsa, .ofArcs [1, 2, 840, 113549, 1, 1, 12],
    .ofArcs [1, 2, 840, 113549, 1, 1, 13], .ofArcs [2, 16, 840, 1, 101, 3, 4, 3, 13],
    .ofArcs [2, 16, 840, 1, 101, 3, 4, 3, 14], .ofArcs [2, 16, 840, 1, 101, 3, 4, 3, 15],
    .ofArcs [2, 16, 840, 1, 101, 3, 4, 3, 16]]

/-- Keys and signatures on the Montgomery and Edwards curves, and elliptic curve signatures over
digests of the SHA families. -/
def curveFamily : List Oid :=
  [.ofArcs [1, 3, 101, 110], .ofArcs [1, 3, 101, 111], .ofArcs [1, 3, 101, 112],
    .ofArcs [1, 3, 101, 113], .ofArcs [1, 2, 840, 10045, 4, 3, 1],
    .ofArcs [1, 2, 840, 10045, 4, 3, 2], .ofArcs [1, 2, 840, 10045, 4, 3, 3],
    .ofArcs [1, 2, 840, 10045, 4, 3, 4], .ofArcs [2, 16, 840, 1, 101, 3, 4, 3, 9],
    .ofArcs [2, 16, 840, 1, 101, 3, 4, 3, 10], .ofArcs [2, 16, 840, 1, 101, 3, 4, 3, 11],
    .ofArcs [2, 16, 840, 1, 101, 3, 4, 3, 12]]

/-- DSA signatures over digests of the second SHA family. -/
def dsaSignatures : List Oid :=
  [.ofArcs [2, 16, 840, 1, 101, 3, 4, 3, 1], .ofArcs [2, 16, 840, 1, 101, 3, 4, 3, 2],
    .ofArcs [2, 16, 840, 1, 101, 3, 4, 3, 3], .ofArcs [2, 16, 840, 1, 101, 3, 4, 3, 4]]

/-- Keys and signatures on module lattices. -/
def latticeFamily : List Oid :=
  [.ofArcs [2, 16, 840, 1, 101, 3, 4, 3, 17], .ofArcs [2, 16, 840, 1, 101, 3, 4, 3, 18],
    .ofArcs [2, 16, 840, 1, 101, 3, 4, 3, 19], .ofArcs [2, 16, 840, 1, 101, 3, 4, 4, 2],
    .ofArcs [2, 16, 840, 1, 101, 3, 4, 4, 3]]

/-- Block ciphers with chaining over blocks of 16 bytes. -/
def aesCiphers : List Oid :=
  [.ofArcs [2, 16, 840, 1, 101, 3, 4, 1, 2], .ofArcs [2, 16, 840, 1, 101, 3, 4, 1, 22],
    .ofArcs [2, 16, 840, 1, 101, 3, 4, 1, 42]]

/-- An algorithm with an empty value for parameters, as an element. -/
def withNull (oid : Oid) : Element := .sequence [oid.toElement, .null]

end Algorithm

/-! ## Parameters -/

namespace Parameters

open Form Algorithm

/-- An empty value, or nothing. -/
def nullOrAbsent : List Field := [.optional .null null]

/-- The field of a curve: a prime, or for polynomials a sequence. There are no other fields. -/
def fieldOfCurve : Form := definedBy fun oid parameters =>
  (oid = primeField && fill [.required natural] parameters) ||
    (oid = binaryField && fill [.required anySequence] parameters)

/-- A curve written out: version, field, the two coefficients and perhaps the seed they come
from, base point, order, and perhaps a cofactor of one byte. -/
def curveInFull : Form := sequenceOf
  [.required (naturalOfBits 8), .required fieldOfCurve,
    .required (sequenceOf [.required octets, .required octets, .optional .bitString bits]),
    .required octets, .required natural, .optional .integer (naturalOfBits 8)]

/-- A curve: by name, left to be known, or in full. -/
def curve : Form := fun e => identifier e || null e || curveInFull e

/-- Parameters of probabilistic padding: digest, mask, length of the salt and trailer. What is
left out means SHA-1, a mask with it, and 20 bytes, and of these three none may be spelled out. -/
def padding (algorithm : Form) : Form :=
  let mask := sequenceOf [.required identifier, .required algorithm]
  let defaultMask := Element.sequence [maskGeneration.toElement, withNull sha1]
  sequenceOf
    [.optional (.context true 0) (inside (.context true 0) (otherThan (withNull sha1) algorithm)),
      .optional (.context true 1) (inside (.context true 1) (otherThan defaultMask mask)),
      .optional (.context true 2)
        (inside (.context true 2) (otherThan (.ofInt 20) (naturalOfBits 16))),
      .optional (.context true 3) (inside (.context true 3) (naturalOfBits 8))]

/-- Modulus and base of a key agreement, and perhaps a length for private values. -/
def agreementGroup : Form := sequenceOf
  [.required natural, .required natural, .optional .integer (naturalOfBits 32)]

/-- Modulus, base and order of a key agreement, and perhaps a cofactor and how they were found. -/
def agreementSubgroup : Form := sequenceOf
  [.required natural, .required natural, .required natural, .optional .integer natural,
    .optional .sequence anySequence]

/-- Salt, count of rounds, perhaps the length of the key, and the pseudorandom function, which is
left out when it is message authentication with SHA-1. -/
def roundsOfMac (algorithm : Form) : Form := sequenceOf
  [.required octets, .required (naturalOfBits 64), .optional .integer (naturalOfBits 64),
    .optional .sequence (otherThan (withNull macWithSha1) algorithm)]

/-- Salt, three costs, and perhaps the length of the key. -/
def memoryHard : Form := sequenceOf
  [.required octets, .required (naturalOfBits 64), .required (naturalOfBits 64),
    .required (naturalOfBits 64), .optional .integer (naturalOfBits 32)]

/-- A salt of a given form and a count of rounds. -/
def saltAndRounds (salt : Form) : Form := sequenceOf [.required salt, .required (naturalOfBits 64)]

/-- Algorithms and the places behind their identifiers. -/
def table (algorithm : Form) : List (List Oid × List Field) :=
  [(digests ++ macs ++ rsaFamily, nullOrAbsent),
    (unsigned :: (curveFamily ++ dsaSignatures ++ latticeFamily), []),
    ([rsaPss], [.optional .sequence (padding algorithm)]),
    ([.ofArcs [1, 2, 840, 10045, 2, 1]], [.required curve]),
    ([.ofArcs [1, 2, 840, 10040, 4, 1]],
      [.required (sequenceOf [.required natural, .required natural, .required natural])]),
    ([.ofArcs [1, 2, 840, 113549, 1, 3, 1]], [.required agreementGroup]),
    ([.ofArcs [1, 2, 840, 10046, 2, 1]], [.required agreementSubgroup]),
    (aesCiphers, [.required (octetsOfLength 16)]),
    ([.ofArcs [1, 2, 840, 113549, 3, 7]], [.required (octetsOfLength 8)]),
    ([.ofArcs [1, 2, 840, 113549, 3, 2]],
      [.required (sequenceOf
        [.optional .integer (naturalOfBits 32), .required (octetsOfLength 8)])]),
    ([.ofArcs [1, 2, 840, 113549, 1, 5, 3]], [.required (saltAndRounds (octetsOfLength 8))]),
    ([.ofArcs [1, 2, 840, 113549, 1, 12, 1, 1], .ofArcs [1, 2, 840, 113549, 1, 12, 1, 3],
      .ofArcs [1, 2, 840, 113549, 1, 12, 1, 6]], [.required (saltAndRounds octets)]),
    ([.ofArcs [1, 2, 840, 113549, 1, 5, 12]], [.required (roundsOfMac algorithm)]),
    ([.ofArcs [1, 3, 6, 1, 4, 1, 11591, 4, 11]], [.required memoryHard]),
    ([.ofArcs [1, 2, 840, 113549, 1, 5, 13]],
      [.required (sequenceOf [.required algorithm, .required algorithm])])]

/-- Whether elements may stand behind an identifier, where algorithms inside them have the given
form. -/
def follows (algorithm : Form) (oid : Oid) (parameters : List Element) : Bool :=
  match (table algorithm).find? fun row => row.1.contains oid with
  | some (_, fields) => fill fields parameters
  | none => parameters.length ≤ 1

/-- An algorithm whose parameters hold further algorithms down to a given depth. -/
def algorithmOfDepth : Nat → Form
  | 0 => fun _ => false
  | depth + 1 => definedBy (follows (algorithmOfDepth depth))

/-- Whether an algorithm may have the given parameters. Algorithms inside them lie no deeper than
their contents are long. -/
def fit (oid : Oid) (parameters : Option Element) : Bool :=
  let depth := parameters.elim 0 (·.contents.length)
  follows (algorithmOfDepth depth) oid parameters.toList

end Parameters

end CertRenewal.Certificate
