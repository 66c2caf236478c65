import CertRenewal.Certificate.Parameters

/-
  Algorithm identifiers and public keys as certificates and signing requests carry them. The
  parameters of an algorithm are kept as they stand once they are known to fit the algorithm.
  Keys and signatures are not looked into.
-/

namespace CertRenewal.Certificate

open Der

/-- An algorithm and its parameters. -/
structure Algorithm where
  oid : Oid
  parameters : Option Element
deriving DecidableEq, Repr

namespace Algorithm

/-- Identifier and parameters can be written, and the algorithm may have the parameters. -/
def isProper (a : Algorithm) : Bool :=
  a.oid.isProper && a.parameters.all Element.isProper && Parameters.fit a.oid a.parameters

/-- An algorithm as an element. -/
def toElement (a : Algorithm) : Element := .sequence (a.oid.toElement :: a.parameters.toList)

/-- An object identifier and at most one element for the parameters. -/
def ofElements? : List Element → Option Algorithm
  | [oid] => do
    let oid ← Oid.ofElement? oid
    some ⟨oid, none⟩
  | [oid, parameters] => do
    let oid ← Oid.ofElement? oid
    some ⟨oid, some parameters⟩
  | _ => none

/-- The algorithm that an element is, if its parameters are proper. -/
def ofElement? (e : Element) : Option Algorithm := do
  let parts ← e.children? .sequence
  let a ← ofElements? parts
  if a.isProper then some a else none

end Algorithm

/-- A public key: what it is for, and its bits. -/
structure PublicKey where
  algorithm : Algorithm
  bits : BitString
deriving DecidableEq, Repr

namespace PublicKey

/-- The parts of a public key are proper. -/
def isProper (k : PublicKey) : Bool := k.algorithm.isProper && k.bits.isProper

/-- A public key as an element. -/
def toElement (k : PublicKey) : Element :=
  .sequence [k.algorithm.toElement, k.bits.toElement .bitString]

/-- The public key that an element is. -/
def ofElement? (e : Element) : Option PublicKey := do
  match ← e.children? .sequence with
  | [algorithm, bits] =>
    let algorithm ← Algorithm.ofElement? algorithm
    let bits ← BitString.ofElement? .bitString bits
    some ⟨algorithm, bits⟩
  | _ => none

end PublicKey

end CertRenewal.Certificate
