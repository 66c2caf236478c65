import CertRenewal.Certificate.Load
import CertRenewal.Proofs.Calendar
import CertRenewal.Proofs.Pem

/-
  What can come of a text in which a certificate is looked for. `Holds` says which certificate a
  text holds, before anything about its version or its end has been asked; from it follow the
  three outcomes of `expiration`. An end that is told is a second of the years 1 to 9999.
-/

namespace CertRenewal.Certificate

open Der

/-! ## Ends are seconds of the calendar -/

namespace Timestamp

theorem isValid_of_ofRest? {year : Nat} {s : List Char} {t : CalendarSecond}
    (h : ofRest? year s = some t) : t.isValid = true := by
  simp only [ofRest?, Option.bind_eq_bind, Option.bind_eq_some_iff, Prod.exists] at h
  obtain ⟨_, _, -, _, _, -, _, _, -, _, _, -, _, _, -, h⟩ := h
  split at h
  · rename_i valid
    cases h
    exact valid.2
  · cases h

theorem isValid_of_ofElement? {e : Element} {t : Timestamp} (h : ofElement? e = some t) :
    t.second.isValid = true := by
  have written : ∀ form s, ofChars? form s = some t → t.second.isValid = true := by
    intro form s hs
    cases form <;>
      simp only [ofChars?, Option.bind_eq_bind, Option.bind_eq_some_iff, Prod.exists] at hs
    all_goals
      obtain ⟨_, _, -, second, valid, hs⟩ := hs
      cases hs
      exact isValid_of_ofRest? valid
  simp only [ofElement?, Option.bind_eq_bind, Option.bind_eq_some_iff] at h
  obtain ⟨s, -, h⟩ := h
  split at h
  · exact written _ _ h
  · split at h
    · exact written _ _ h
    · cases h

end Timestamp

theorem Validity.isValid_of_ofElement? {e : Element} {v : Validity}
    (h : Validity.ofElement? e = some v) : v.notAfter.second.isValid = true := by
  simp only [Validity.ofElement?, Option.bind_eq_bind, Option.bind_eq_some_iff] at h
  obtain ⟨es, -, h⟩ := h
  split at h
  · simp only [Option.bind_eq_some_iff] at h
    obtain ⟨_, -, notAfter, hn, h⟩ := h
    cases h
    exact Timestamp.isValid_of_ofElement? hn
  · cases h

theorem Body.isValid_of_ofElements? {es : List Element} {b : Body}
    (h : Body.ofElements? es = some b) : b.validity.notAfter.second.isValid = true := by
  unfold Body.ofElements? at h
  dsimp only at h
  split at h
  · simp only [Option.bind_eq_bind, Option.bind_eq_some_iff] at h
    obtain ⟨_, -, _, -, _, -, _, -, validity, hv, _, -, _, -, _, -, _, -, _, -, h⟩ := h
    split at h
    · cases h
      exact Validity.isValid_of_ofElement? hv
    · cases h
  · cases h

/-- Whatever is read as a certificate ends in a second that the calendar has. -/
theorem isValid_of_decode? {b : Bytes} {c : Certificate} (h : decode? b = some c) :
    c.body.validity.notAfter.second.isValid = true := by
  simp only [decode?, Option.bind_eq_bind, Option.bind_eq_some_iff] at h
  obtain ⟨e, -, h⟩ := h
  split at h
  · simp only [ofElement?, Option.bind_eq_bind, Option.bind_eq_some_iff] at h
    obtain ⟨es, -, h⟩ := h
    split at h
    · simp only [Option.bind_eq_some_iff, Body.ofElement?, Option.bind_eq_bind] at h
      obtain ⟨body, ⟨es', -, hb⟩, _, -, _, -, h⟩ := h
      cases h
      exact Body.isValid_of_ofElements? hb
    · cases h
  · cases h

/-! ## The certificate of a text -/

/-- The certificate that a text holds: its first block is a certificate, all its blocks are in
order, and the contents of the first fitting one are this certificate. -/
def Holds (data : Bytes) (c : Certificate) : Prop :=
  ∃ block, locate data = .ok block ∧ ofBlocks? block = some c

/-- The versions that certificates can have: the first, which is not written, and the third. -/
def IsKnown (c : Certificate) : Prop := c.body.version = 0 ∨ c.body.version = 2

instance (c : Certificate) : Decidable c.IsKnown := inferInstanceAs (Decidable (_ ∨ _))

/-- The last second of a certificate's validity. -/
def lastSecond (c : Certificate) : CalendarSecond := c.body.validity.notAfter.second

variable {data : Bytes} {c : Certificate}

theorem load_of_holds (h : Holds data c) :
    load data =
      if c.IsKnown then .ok c else .error (.anomalous (.unknownVersion c.body.version)) := by
  obtain ⟨block, hl, hc⟩ := h
  simp only [load, hl, hc]
  rfl

/-- The end of a certificate that is held is told, unless its version does not exist or the end
lies in the year 0. -/
theorem expiration_of_holds (h : Holds data c) :
    expiration data =
      if c.IsKnown then
        if c.lastSecond.year = 0 then .error (.anomalous .yearZero) else .ok c.lastSecond
      else .error (.anomalous (.unknownVersion c.body.version)) := by
  unfold expiration
  rw [load_of_holds h]
  by_cases known : c.IsKnown
  · rw [if_pos known, if_pos known]
    rfl
  · rw [if_neg known, if_neg known]
    rfl

/-- A text that holds no certificate is unreadable. -/
theorem expiration_of_not_holds (h : ∀ c, ¬ Holds data c) :
    ∃ reason, expiration data = .error (.unreadable reason) := by
  cases hl : locate data with
  | error reason =>
    refine ⟨reason, ?_⟩
    simp only [expiration, load, hl]
    rfl
  | ok block =>
    cases hc : ofBlocks? block with
    | none =>
      refine ⟨.malformed, ?_⟩
      simp only [expiration, load, hl, hc]
      rfl
    | some c => exact absurd ⟨block, hl, hc⟩ (h c)

theorem isValid_of_holds (h : Holds data c) : c.lastSecond.isValid = true := by
  obtain ⟨block, -, hc⟩ := h
  simp only [ofBlocks?, Option.bind_eq_bind, Option.bind_eq_some_iff] at hc
  obtain ⟨_, -, _, -, hc⟩ := hc
  exact isValid_of_decode? hc

/-- An end that is told is a second of the years 1 to 9999. -/
theorem isDated_of_expiration {t : CalendarSecond} (h : expiration data = .ok t) : t.IsDated := by
  by_cases held : ∃ c, Holds data c
  · obtain ⟨c, hc⟩ := held
    rw [expiration_of_holds hc] at h
    split at h
    · split at h
      · cases h
      · rename_i year
        cases h
        exact ⟨isValid_of_holds hc, Nat.pos_of_ne_zero year⟩
    · cases h
  · obtain ⟨reason, hr⟩ := expiration_of_not_holds (not_exists.1 held)
    rw [hr] at h
    cases h

/-! ## Written certificates -/

/-- The block in which a certificate is kept. -/
def block (content : Bytes) : Pem.Block := ⟨"CERTIFICATE", content⟩

theorem isLabel_block (content : Bytes) : Pem.IsLabel (block content).label := by
  show Pem.IsLabel "CERTIFICATE"
  decide

theorem locate_write (content : Bytes) :
    locate (Pem.write (block content)) = .ok (Pem.write (block content)) := by
  obtain ⟨rest, written⟩ := Pem.write_opening (block content)
  have opening : beginLine =
      Pem.beginMarker ++ (Utf8.ofString (block content).label ++ Pem.dashes) := by
    show beginLine = Pem.beginMarker ++ (Utf8.ofString "CERTIFICATE" ++ Pem.dashes)
    decide
  have cut : cut? Pem.beginMarker (Pem.write (block content)) =
      some ([], Utf8.ofString (block content).label ++ (Pem.dashes ++ rest)) := by
    rw [written]
    exact cut?_append (by decide) _
  have fits : after? beginLine (Pem.write (block content)) = some rest := by
    rw [written, opening]
    have := after?_append
      (Pem.beginMarker ++ (Utf8.ofString (block content).label ++ Pem.dashes)) rest
    simpa only [List.append_assoc] using this
  unfold locate
  simp only [cut]
  rw [← written, fits]

/-- A written block holds the certificate that its contents are. -/
theorem holds_write_iff (content : Bytes) (c : Certificate) :
    Holds (Pem.write (block content)) c ↔ decode? content = some c := by
  have blocks : ofBlocks? (Pem.write (block content)) = decode? content := by
    unfold ofBlocks?
    rw [Pem.read?_write _ (isLabel_block content)]
    rfl
  unfold Holds
  simp only [locate_write, Except.ok.injEq, exists_eq_left', blocks]

/-- A webhook's certificate with a key on the Edwards curve, of a given version and with a given
end. -/
def sample (version : Nat) (notAfter : Timestamp) : Certificate where
  body :=
    { version
      serial := 77
      algorithm := ⟨.ofArcs [1, 3, 101, 112], none⟩
      issuer := .ofCommonName "ca"
      validity := ⟨⟨.short, ⟨2024, 1, 1, 0, 0, 0⟩⟩, notAfter⟩
      subject := .ofCommonName "webhook"
      publicKey :=
        ⟨⟨.ofArcs [1, 3, 101, 112], none⟩, .ofBytes ((List.range 32).map UInt8.ofNat)⟩
      issuerId := none
      subjectId := none
      extensions := none }
  algorithm := ⟨.ofArcs [1, 3, 101, 112], none⟩
  signature := .ofBytes (List.replicate 64 0)

end CertRenewal.Certificate
