import CertRenewal.Proofs.Decisions
import CertRenewal.Proofs.FirstBlock

/-
  What stands behind the block of a certificate. The certificate itself is that of the first
  block, but what follows has to be in order: a later frame that is no block makes the whole text
  malformed. Main statement: `load_append`, for texts whose first block is complete, with any
  bytes appended to them. Text without a begin marker and further blocks that were written
  change nothing.
-/

namespace CertRenewal

/-! ## Frames of a text in two parts -/

namespace Pem

/-- A frame that is complete stays the first one when something is appended. -/
theorem nextFrame?_append_right {data rest : Bytes} {f : Frame}
    (h : nextFrame? data = some (f, rest)) (more : Bytes) :
    nextFrame? (data ++ more) = some (f, rest ++ more) := by
  simp only [nextFrame?, Option.bind_eq_bind, Option.bind_eq_some_iff, Prod.exists,
    Option.some.injEq, Prod.mk.injEq] at h
  obtain ⟨before, l₁, begins, opening, l₂, opens, body, l₃, ends, closing, l₄, closes, rfl, rfl⟩ :=
    h
  have skipped : (l₂ ++ more).dropWhile isLineSpace = l₂.dropWhile isLineSpace ++ more := by
    rw [List.dropWhile_append, if_neg]
    intro empty
    rw [List.isEmpty_iff.1 empty] at ends
    cases ends
  unfold nextFrame?
  simp only [scan?_append_right begins, scan?_append_right opens, skipped,
    scan?_append_right ends, scan?_append_right closes, Option.bind_eq_bind, Option.bind_some]

/-- Text without a dash in front of a text has no part in its frames. -/
theorem nextFrame?_append_of_not_mem {tail : Bytes} (h : (45 : UInt8) ∉ tail) (data : Bytes) :
    nextFrame? (tail ++ data) = nextFrame? data := by
  unfold nextFrame? scan?
  rw [show beginMarker = 45 :: beginMarker.tail from rfl, scanFrom?_append h]
  cases scanFrom? (45 :: beginMarker.tail) (45 :: beginMarker.tail) data with
  | none => rfl
  | some found => rfl

theorem read?_congr {data other : Bytes} (h : nextFrame? other = nextFrame? data) :
    read? other = read? data := by
  cases next : nextFrame? data with
  | none =>
    rw [read?_of_no_frame next, read?_of_no_frame (h.trans next)]
  | some first =>
    obtain ⟨f, rest⟩ := first
    rw [read?_of_nextFrame? next, read?_of_nextFrame? (h.trans next)]

/-- Text without a begin marker has no frame, and is in order. -/
theorem read?_of_no_marker {data : Bytes} (h : ¬ beginMarker <:+: data) :
    read? data = some [] := by
  refine read?_of_no_frame ?_
  unfold nextFrame?
  cases found : scan? beginMarker data with
  | none => rfl
  | some parts =>
    obtain ⟨before, rest⟩ := parts
    exact absurd ⟨before, rest, by rw [List.append_assoc, eq_append_of_scan? found]⟩ h

/-- Blocks that were written, one behind the other, are in order. -/
theorem read?_flatMap_write {blocks : List Block} (h : ∀ b ∈ blocks, IsLabel b.label) :
    read? (blocks.flatMap write) = some blocks := by
  induction blocks with
  | nil => exact read?_of_no_marker not_infix_nil
  | cons b blocks ih =>
    obtain ⟨label, labels⟩ := List.forall_mem_cons.1 h
    have feed : (45 : UInt8) ∉ [(10 : UInt8)] := by decide
    have later : read? (10 :: blocks.flatMap write) = read? (blocks.flatMap write) :=
      read?_congr (nextFrame?_append_of_not_mem feed _)
    rw [List.flatMap_cons, read?_of_nextFrame? (nextFrame?_write b label _), block?_frame b label,
      later, ih labels]
    rfl

end Pem

/-! ## A certificate and what follows it -/

namespace Certificate

variable {data body rest : Bytes}

/-- The first body of a text is that of the first frame from its first marker on. -/
theorem HasFirstBody.exists_frame (h : HasFirstBody data body rest) :
    ∃ l, locate data = .ok (beginLine ++ l) ∧
      Pem.nextFrame? (beginLine ++ l) = some (⟨label, body, label⟩, rest) := by
  obtain ⟨before, gap, rfl, free, spaces, starts, ends⟩ := h
  refine ⟨gap ++ (body ++ (endLine ++ rest)), locate_eq_ok_iff.2 ⟨before, _, rfl, rfl, free⟩, ?_⟩
  have skipped : (gap ++ (body ++ (endLine ++ rest))).dropWhile Pem.isLineSpace =
      body ++ (endLine ++ rest) := by
    rw [List.dropWhile_append_of_pos spaces]
    cases body with
    | nil => exact List.dropWhile_cons_of_neg (by decide)
    | cons x body =>
      have first : Pem.isLineSpace x = false := starts x rfl
      exact List.dropWhile_cons_of_neg (by rw [first]; decide)
  have closes : Pem.scan? Pem.dashes (label ++ (Pem.dashes ++ rest)) = some (label, rest) :=
    Pem.scan?_append (m := 45) (by decide) (by decide) rest
  rw [nextFrame?_beginLine, skipped, ends, Option.bind_some, closes]
  rfl

/-- Where only text without a dash follows the first block, that text has no part in the
certificate; what is appended has to be in order, and has no other part in it. -/
theorem ofBlocks?_append {l : Bytes} {f : Pem.Frame} (quiet : (45 : UInt8) ∉ rest)
    (h : Pem.nextFrame? (beginLine ++ l) = some (f, rest)) (s : Bytes) :
    ofBlocks? (beginLine ++ (l ++ s)) =
      (Pem.read? s).bind fun _ => ofBlocks? (beginLine ++ l) := by
  have longer := Pem.nextFrame?_append_right h s
  rw [List.append_assoc] at longer
  have tail : Pem.read? rest = some [] := by
    refine Pem.read?_of_no_marker fun inside => quiet (inside.subset ?_)
    decide
  rw [ofBlocks?_of_nextFrame? longer, ofBlocks?_of_nextFrame? h, tail,
    Pem.read?_congr (Pem.nextFrame?_append_of_not_mem quiet s)]
  cases f.block? with
  | none => cases Pem.read? s <;> rfl
  | some b => cases Pem.read? s <;> rfl

/-- Bytes behind the first block either change nothing or make the text malformed. -/
theorem load_append_eq (first : HasFirstBody data body rest) (quiet : (45 : UInt8) ∉ rest)
    (s : Bytes) :
    load (data ++ s) =
      if (Pem.read? s).isSome then load data else .error (.unreadable .malformed) := by
  obtain ⟨l, located, frame⟩ := first.exists_frame
  have longer : locate (data ++ s) = .ok (beginLine ++ (l ++ s)) := by
    obtain ⟨before, l', rfl, same, free⟩ := locate_eq_ok_iff.1 located
    rw [List.append_assoc, List.append_assoc]
    exact locate_eq_ok_iff.2 ⟨before, l ++ s, rfl, rfl, free⟩
  rw [load_of_locate_ok longer, load_of_locate_ok located, ofBlocks?_append quiet frame]
  cases Pem.read? s with
  | none => rfl
  | some blocks => rfl

theorem expiration_congr {data other : Bytes} (h : load other = load data) :
    expiration other = expiration data := by
  unfold expiration
  rw [h]

/-- What stands behind a first block that is complete, or was malformed already, keeps what was
loaded exactly if it is in order, and makes the text malformed otherwise. It is in order when it
has no begin marker or consists of blocks that were written. A policy decides the same as without
it in the first case, and takes the text for unreadable in the second, however long the
certificate would still be valid. -/
theorem load_append (first : HasFirstBody data body rest) (quiet : (45 : UInt8) ∉ rest)
    (s : Bytes) :
    (load (data ++ s) = load data ↔
        (Pem.read? s).isSome ∨ load data = .error (.unreadable .malformed)) ∧
      (Pem.read? s = none → load (data ++ s) = .error (.unreadable .malformed)) ∧
      (¬ Pem.beginMarker <:+: s → load (data ++ s) = load data) ∧
      (∀ blocks : List Pem.Block, (∀ b ∈ blocks, Pem.IsLabel b.label) →
        s = blocks.flatMap Pem.write → load (data ++ s) = load data) ∧
      ∀ (p : Rotation.Policy) (key : Bytes) (now : Present),
        ((Pem.read? s).isSome →
          p.evaluate (some ⟨data ++ s, key⟩) now = p.evaluate (some ⟨data, key⟩) now) ∧
        (Pem.read? s = none →
          (p.evaluate (some ⟨data ++ s, key⟩) now).outcome = .ok .unreadable) := by
  have split := load_append_eq first quiet s
  have kept : (Pem.read? s).isSome → load (data ++ s) = load data := by
    intro order
    rw [split, if_pos order]
  have spoiled : Pem.read? s = none → load (data ++ s) = .error (.unreadable .malformed) := by
    intro broken
    rw [split, broken]
    rfl
  refine ⟨⟨?_, ?_⟩, spoiled, ?_, ?_, ?_⟩
  · intro same
    cases order : Pem.read? s with
    | none => exact .inr (same.symm.trans (spoiled order))
    | some blocks => exact .inl rfl
  · rintro (order | already)
    · exact kept order
    · rw [split, already, ite_self]
  · intro free
    exact kept (by rw [Pem.read?_of_no_marker free]; rfl)
  · rintro blocks labels rfl
    exact kept (by rw [Pem.read?_flatMap_write labels]; rfl)
  · intro p key now
    refine ⟨?_, ?_⟩
    · intro order
      exact Rotation.evaluate_congr_pair p now (expiration_congr (kept order))
    · intro broken
      exact outcome_evaluate_of_load (spoiled broken) p key now

theorem hasFirstBody_write (content : Bytes) :
    HasFirstBody (Pem.write (block content)) (block content).frame.body [10] := by
  have frame := Pem.nextFrame?_write (block content) (isLabel_block content) []
  rw [List.append_nil] at frame
  have closing : (block content).frame.closing = label := by
    show Utf8.ofString (block content).label = Utf8.ofString "CERTIFICATE"
    rfl
  obtain ⟨before, l, -, written, -⟩ := locate_eq_ok_iff.1 (locate_write content)
  rw [written] at frame ⊢
  exact hasFirstBody_of_nextFrame? Pem.not_infix_nil frame closing

/-- A block whose body is not base64. -/
def brokenBlock : Bytes := Utf8.ofString "-----BEGIN X-----\n!\n-----END X-----\n"

theorem read?_brokenBlock : Pem.read? brokenBlock = none := by decide +kernel

/-- A further certificate that was written keeps the one in front of it, though nothing is in it,
and a broken block takes it away. -/
theorem load_append_sample :
    load (sampleText ++ Pem.write (block [])) =
        .ok (sample 2 ⟨.short, ⟨2027, 1, 1, 0, 0, 0⟩⟩) ∧
      load (sampleText ++ brokenBlock) = .error (.unreadable .malformed) := by
  have first := hasFirstBody_write (sample 2 ⟨.short, ⟨2027, 1, 1, 0, 0, 0⟩⟩).encode
  obtain ⟨-, -, -, written, -⟩ := load_append first (by decide) (Pem.write (block []))
  obtain ⟨-, spoiled, -, -, -⟩ := load_append first (by decide) brokenBlock
  refine ⟨?_, spoiled read?_brokenBlock⟩
  refine (written [block []] ?_ ?_).trans load_sampleText
  · exact List.forall_mem_singleton.2 (isLabel_block [])
  · rw [List.flatMap_singleton]

/-- The first block alone does not decide: a certificate that would be kept for another year is
unreadable, and to be replaced, as soon as a broken block of another kind follows it. -/
theorem not_first_block_alone :
    (∃ body, HasFirstBody sampleText body [10]) ∧
      load sampleText = .ok (sample 2 ⟨.short, ⟨2027, 1, 1, 0, 0, 0⟩⟩) ∧
      load (sampleText ++ brokenBlock) = .error (.unreadable .malformed) ∧
      (∃ d, (Rotation.Policy.standard.evaluate (some ⟨sampleText, []⟩)
        (.named ⟨⟨2026, 1, 1, 0, 0, 0⟩, 0, none⟩)).outcome = .ok d ∧ d.rotate = false) ∧
      (Rotation.Policy.standard.evaluate (some ⟨sampleText ++ brokenBlock, []⟩)
        (.named ⟨⟨2026, 1, 1, 0, 0, 0⟩, 0, none⟩)).outcome = .ok .unreadable := by
  have first := hasFirstBody_write (sample 2 ⟨.short, ⟨2027, 1, 1, 0, 0, 0⟩⟩).encode
  have spoiled : load (sampleText ++ brokenBlock) = .error (.unreadable .malformed) := by
    refine (load_append_eq first (by decide) brokenBlock).trans ?_
    rw [read?_brokenBlock]
    rfl
  have kept : (Rotation.Policy.standard.compare ⟨2027, 1, 1, 0, 0, 0⟩
      (Moment.mk ⟨2026, 1, 1, 0, 0, 0⟩ 0 none).instant).rotate = false := by decide
  refine ⟨⟨_, first⟩, load_sampleText, spoiled, ⟨Rotation.Policy.standard.compare _ _, ?_, kept⟩,
    outcome_evaluate_of_load spoiled _ _ _⟩
  exact Rotation.Policy.outcome_evaluate_dated Rotation.expiration_samplePair rfl

end Certificate

end CertRenewal
