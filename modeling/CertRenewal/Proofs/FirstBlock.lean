import CertRenewal.Proofs.Expiration
import CertRenewal.Proofs.Markers
import CertRenewal.Proofs.Outcomes
import Mathlib.Data.List.TakeWhile

/-
  Which block of a text is read as its certificate. It is the one at the first begin marker, or
  none: what stands in front of that marker does not matter, and no later block takes its place.
  Main statement: `load_first_block`. It says when a text is refused without being parsed, which
  bytes a certificate that was loaded was decoded from, and that the texts of keys and of signing
  requests are never certificates, whatever follows them.
-/

namespace CertRenewal

/-! ## Frames and blocks -/

theorem Utf8.eq_ofString_of_toString? {b : Bytes} {s : String} (h : toString? b = some s) :
    b = ofString s := by
  obtain ⟨chars, read, rfl⟩ := Option.map_eq_some_iff.1 h
  rw [ofString, String.toList_ofList]
  exact eq_encode_of_decode? read

theorem Utf8.ofString_injective {s t : String} (h : ofString s = ofString t) : s = t := by
  have read := congrArg toString? h
  rw [toString?_ofString, toString?_ofString] at read
  exact Option.some.inj read

namespace Pem

theorem endsOnce_beginMarker : EndsOnce beginMarker :=
  ⟨beginMarker.dropLast, 32, by decide, by decide⟩

theorem not_infix_nil : ¬ beginMarker <:+: ([] : Bytes) := by
  rw [List.infix_nil]
  exact endsOnce_beginMarker.ne_nil

/-- The text spells a byte string in base64, headers and white space apart. -/
def Spells (text : List Char) (content : Bytes) : Prop :=
  (∀ header ∈ lines (splitHeaders text).1, isHeader header = true) ∧
    (splitHeaders text).2.filter (!Text.isWhiteSpace ·) = Base64.encode content

theorem spells_of_content? {text : List Char} {content : Bytes}
    (h : content? text = some content) : Spells text content := by
  unfold content? at h
  dsimp only at h
  split at h
  · rename_i headers
    exact ⟨List.all_eq_true.1 headers, Base64.eq_encode_of_decode? h⟩
  · cases h

/-- A frame that is in order has the label of its block on both of its lines, and between them
the contents of the block. -/
theorem Frame.eq_of_block? {f : Frame} {b : Block} (h : f.block? = some b) :
    f.opening = Utf8.ofString b.label ∧ f.closing = Utf8.ofString b.label ∧
      ∃ text, f.body = Utf8.encode text ∧ Spells text b.content := by
  simp only [block?, Option.bind_eq_bind, Option.bind_eq_some_iff] at h
  obtain ⟨label, opening, closing, ending, text, body, h⟩ := h
  split at h
  · rename_i labels
    obtain ⟨content, found, h⟩ := Option.bind_eq_some_iff.1 h
    cases h
    refine ⟨Utf8.eq_ofString_of_toString? opening, ?_, text, Utf8.eq_encode_of_decode? body,
      spells_of_content? found⟩
    rw [labels.2]
    exact Utf8.eq_ofString_of_toString? ending
  · cases h

/-- A text is in order when its first frame is and so is what follows it. -/
theorem read?_of_nextFrame? {data rest : Bytes} {f : Frame}
    (h : nextFrame? data = some (f, rest)) :
    read? data = f.block?.bind fun b => (read? rest).map (b :: ·) := by
  rw [read?, frames_of_nextFrame? h, List.mapM_cons]
  cases f.block? with
  | none => rfl
  | some b =>
    show (read? rest).bind _ = (read? rest).map _
    cases read? rest <;> rfl

theorem read?_of_no_frame {data : Bytes} (h : nextFrame? data = none) : read? data = some [] := by
  have empty : frames data = [] := by
    rw [frames.eq_def]
    split <;> simp_all
  rw [read?, empty]
  rfl

end Pem

/-! ## The text from its first marker on -/

namespace Certificate

/-- The label of a certificate. -/
def label : Bytes := Utf8.ofString "CERTIFICATE"

/-- The end line of a certificate. -/
def endLine : Bytes := Utf8.ofString "-----END CERTIFICATE-----"

theorem beginLine_eq : beginLine = Pem.beginMarker ++ (label ++ Pem.dashes) := by decide

theorem endLine_eq : endLine = Pem.endMarker ++ (label ++ Pem.dashes) := by decide

/-- The first begin marker of the text is the start of the begin line of a certificate. It is the
first one because no two places of the marker overlap. -/
def Opens (data : Bytes) : Prop :=
  ∃ before rest, data = before ++ (beginLine ++ rest) ∧ ¬ Pem.beginMarker <:+: before

variable {data : Bytes}

theorem locate_of_marker {before : Bytes} (free : ¬ Pem.beginMarker <:+: before) (rest : Bytes) :
    locate (before ++ (Pem.beginMarker ++ rest)) =
      if beginLine <+: Pem.beginMarker ++ rest then .ok (Pem.beginMarker ++ rest)
      else .error .notCertificate := by
  unfold locate
  rw [cut?_append_of_free Pem.endsOnce_beginMarker free]
  dsimp only
  cases found : after? beginLine (Pem.beginMarker ++ rest) with
  | none => rw [if_neg (after?_eq_none_iff.1 found)]
  | some more =>
    rw [if_pos]
    rw [eq_append_of_after? found]
    exact List.prefix_append _ _

theorem exists_of_marker (h : Pem.beginMarker <:+: data) :
    ∃ before rest, data = before ++ (Pem.beginMarker ++ rest) ∧ ¬ Pem.beginMarker <:+: before := by
  cases found : cut? Pem.beginMarker data with
  | none => exact absurd h (cut?_eq_none_iff.1 found)
  | some parts =>
    obtain ⟨before, rest⟩ := parts
    refine ⟨before, rest, ?_, not_infix_of_cut? Pem.endsOnce_beginMarker.ne_nil found⟩
    rw [eq_append_of_cut? found, List.append_assoc]

theorem locate_eq_noBlock_iff : locate data = .error .noBlock ↔ ¬ Pem.beginMarker <:+: data := by
  constructor
  · intro h stands
    obtain ⟨before, rest, rfl, free⟩ := exists_of_marker stands
    rw [locate_of_marker free] at h
    split at h <;> cases h
  · intro h
    unfold locate
    rw [cut?_eq_none_iff.2 h]

theorem locate_eq_ok_iff {block : Bytes} :
    locate data = .ok block ↔
      ∃ before rest, data = before ++ block ∧ block = beginLine ++ rest ∧
        ¬ Pem.beginMarker <:+: before := by
  constructor
  · intro h
    by_cases stands : Pem.beginMarker <:+: data
    · obtain ⟨before, rest, rfl, free⟩ := exists_of_marker stands
      rw [locate_of_marker free] at h
      split at h
      · rename_i opens
        cases h
        obtain ⟨more, hm⟩ := opens
        exact ⟨before, more, rfl, hm.symm, free⟩
      · cases h
    · rw [locate_eq_noBlock_iff.2 stands] at h
      cases h
  · rintro ⟨before, rest, rfl, rfl, free⟩
    rw [beginLine_eq, List.append_assoc, locate_of_marker free, if_pos]
    rw [beginLine_eq, List.append_assoc]
    exact List.prefix_append _ _

theorem opens_iff : Opens data ↔ ∃ block, locate data = .ok block := by
  constructor
  · rintro ⟨before, rest, rfl, free⟩
    exact ⟨_, locate_eq_ok_iff.2 ⟨before, rest, rfl, rfl, free⟩⟩
  · rintro ⟨block, h⟩
    obtain ⟨before, rest, rfl, rfl, free⟩ := locate_eq_ok_iff.1 h
    exact ⟨before, rest, rfl, free⟩

theorem locate_eq_notCertificate_iff :
    locate data = .error .notCertificate ↔ Pem.beginMarker <:+: data ∧ ¬ Opens data := by
  by_cases stands : Pem.beginMarker <:+: data
  · obtain ⟨before, rest, rfl, free⟩ := exists_of_marker stands
    rw [opens_iff, locate_of_marker free]
    split <;> simp [stands]
  · rw [locate_eq_noBlock_iff.2 stands]
    simp [stands]

/-! ## The first block -/

/-- The first frame behind a begin line of a certificate has the label of one. -/
theorem nextFrame?_beginLine (l : Bytes) :
    Pem.nextFrame? (beginLine ++ l) =
      (Pem.scan? Pem.endMarker (l.dropWhile Pem.isLineSpace)).bind fun body =>
        (Pem.scan? Pem.dashes body.2).map fun closing =>
          (⟨label, body.1, closing.1⟩, closing.2) := by
  have marker : Pem.scan? Pem.beginMarker (beginLine ++ l) =
      some ([], label ++ (Pem.dashes ++ l)) := by
    rw [beginLine_eq, List.append_assoc, List.append_assoc]
    exact Pem.scan?_append (x := []) (m := 45) (by decide) (by simp) _
  unfold Pem.nextFrame?
  simp only [marker, Option.bind_eq_bind, Option.bind_some]
  rw [Pem.scan?_append (m := 45) (by decide) (by decide)]
  simp only [Option.bind_some]
  cases Pem.scan? Pem.endMarker (l.dropWhile Pem.isLineSpace) with
  | none => rfl
  | some body =>
    simp only [Option.bind_some]
    cases Pem.scan? Pem.dashes body.2 <;> rfl

theorem opening_of_nextFrame? {l rest : Bytes} {f : Pem.Frame}
    (h : Pem.nextFrame? (beginLine ++ l) = some (f, rest)) : f.opening = label := by
  rw [nextFrame?_beginLine] at h
  obtain ⟨body, -, h⟩ := Option.bind_eq_some_iff.1 h
  obtain ⟨closing, -, h⟩ := Option.map_eq_some_iff.1 h
  cases h
  rfl

/-- The certificate of a text that opens with one is that of its first frame, if this frame and
all that follow are in order. -/
theorem ofBlocks?_of_nextFrame? {l rest : Bytes} {f : Pem.Frame}
    (h : Pem.nextFrame? (beginLine ++ l) = some (f, rest)) :
    ofBlocks? (beginLine ++ l) =
      f.block?.bind fun b => (Pem.read? rest).bind fun _ => decode? b.content := by
  unfold ofBlocks?
  rw [Pem.read?_of_nextFrame? h]
  cases hb : f.block? with
  | none => rfl
  | some b =>
    have named : b.label = "CERTIFICATE" :=
      Utf8.ofString_injective ((Pem.Frame.eq_of_block? hb).1.symm.trans (opening_of_nextFrame? h))
    have fits : labels.contains b.label = true := by
      rw [named]
      decide
    cases Pem.read? rest with
    | none => rfl
    | some others =>
      have first : (b :: others).find? (fun b => labels.contains b.label) = some b :=
        List.find?_cons_of_pos fits
      show ((b :: others).find? fun b => labels.contains b.label).bind _ = decode? b.content
      rw [first]
      rfl

/-- A text without a complete frame holds no certificate. -/
theorem ofBlocks?_of_no_frame {block : Bytes} (h : Pem.nextFrame? block = none) :
    ofBlocks? block = none := by
  unfold ofBlocks?
  rw [Pem.read?_of_no_frame h]
  rfl

/-- The block at the first begin marker is one of a certificate, `body` stands between its lines,
and `rest` behind them. The body begins behind what is skipped after the begin line and ends in
front of the first end marker that is met from there on. -/
def HasFirstBody (data body rest : Bytes) : Prop :=
  ∃ before gap,
    data = before ++ (beginLine ++ (gap ++ (body ++ (endLine ++ rest)))) ∧
      ¬ Pem.beginMarker <:+: before ∧
      (∀ x ∈ gap, Pem.isLineSpace x = true) ∧ (∀ x ∈ body.head?, Pem.isLineSpace x = false) ∧
      Pem.scan? Pem.endMarker (body ++ (endLine ++ rest)) =
        some (body, label ++ (Pem.dashes ++ rest))

theorem load_of_locate_error {e : ReadError} (h : locate data = .error e) :
    load data = .error (.unreadable e) := by
  unfold load
  rw [h]

/-- Once a certificate's begin line was found, what is refused is refused as malformed. -/
theorem load_of_locate_ok {block : Bytes} (h : locate data = .ok block) :
    load data = match ofBlocks? block with
      | none => .error (.unreadable .malformed)
      | some c =>
        if c.IsKnown then .ok c else .error (.anomalous (.unknownVersion c.body.version)) := by
  unfold load
  rw [h]
  rfl

theorem load_eq_error_iff {e : ReadError} (he : e ≠ .malformed) :
    load data = .error (.unreadable e) ↔ locate data = .error e := by
  constructor
  · intro h
    cases hl : locate data with
    | error found =>
      rw [load_of_locate_error hl] at h
      cases h
      rfl
    | ok block =>
      rw [load_of_locate_ok hl] at h
      split at h
      · cases h
        exact absurd rfl he
      · split at h <;> cases h
  · exact load_of_locate_error

theorem load_congr {other : Bytes} (h : locate data = locate other) : load data = load other := by
  unfold load
  rw [h]

/-- The frame at the first begin marker has the first body, when both its lines are those of a
certificate. -/
theorem hasFirstBody_of_nextFrame? {before l rest : Bytes} {f : Pem.Frame}
    (free : ¬ Pem.beginMarker <:+: before)
    (h : Pem.nextFrame? (beginLine ++ l) = some (f, rest)) (closing : f.closing = label) :
    HasFirstBody (before ++ (beginLine ++ l)) f.body rest := by
  rw [nextFrame?_beginLine] at h
  obtain ⟨⟨body, more⟩, ends, h⟩ := Option.bind_eq_some_iff.1 h
  obtain ⟨⟨name, rest⟩, closes, h⟩ := Option.map_eq_some_iff.1 h
  cases h
  obtain rfl : name = label := closing
  have after : more = label ++ (Pem.dashes ++ rest) := Pem.eq_append_of_scan? closes
  subst after
  have tail : body ++ (endLine ++ rest) = l.dropWhile Pem.isLineSpace := by
    rw [Pem.eq_append_of_scan? ends, endLine_eq, List.append_assoc, List.append_assoc]
  refine ⟨before, l.takeWhile Pem.isLineSpace, ?_, free, ?_, ?_, ?_⟩
  · rw [tail, List.takeWhile_append_dropWhile]
  · intro x hx
    exact List.mem_takeWhile_imp hx
  · intro x hx
    have first := List.head?_dropWhile_not Pem.isLineSpace l
    rw [← tail, List.head?_append_of_ne_nil _ (List.ne_nil_of_mem (List.mem_of_mem_head? hx)),
      Option.mem_def.1 hx] at first
    simpa using first
  · rw [tail]
    exact ends

/-- A certificate that was loaded is what the body of the first block spells. -/
theorem exists_body_of_load {c : Certificate} (h : load data = .ok c) :
    ∃ text rest der, HasFirstBody data (Utf8.encode text) rest ∧ Pem.Spells text der ∧
      decode? der = some c := by
  cases hl : locate data with
  | error e =>
    rw [load_of_locate_error hl] at h
    cases h
  | ok block =>
    rw [load_of_locate_ok hl] at h
    obtain ⟨before, l, rfl, rfl, free⟩ := locate_eq_ok_iff.1 hl
    have found : ofBlocks? (beginLine ++ l) = some c := by
      split at h
      · cases h
      · split at h
        · cases h
          assumption
        · cases h
    cases hf : Pem.nextFrame? (beginLine ++ l) with
    | none =>
      rw [ofBlocks?_of_no_frame hf] at found
      cases found
    | some next =>
      obtain ⟨f, rest⟩ := next
      rw [ofBlocks?_of_nextFrame? hf] at found
      obtain ⟨b, hb, found⟩ := Option.bind_eq_some_iff.1 found
      obtain ⟨-, -, decoded⟩ := Option.bind_eq_some_iff.1 found
      obtain ⟨opening, closing, text, body, spelled⟩ := Pem.Frame.eq_of_block? hb
      have same : b.label = "CERTIFICATE" :=
        Utf8.ofString_injective (opening.symm.trans (opening_of_nextFrame? hf))
      refine ⟨text, rest, b.content, ?_, spelled, decoded⟩
      rw [← body]
      exact hasFirstBody_of_nextFrame? free hf (by rw [closing, same, label])

/-- What stands in front of the first begin marker does not matter. -/
theorem locate_append {before : Bytes} (free : ¬ Pem.beginMarker <:+: before)
    (opens : Pem.beginMarker <+: data) : locate (before ++ data) = locate data := by
  obtain ⟨rest, rfl⟩ := opens
  rw [locate_of_marker free]
  exact (locate_of_marker Pem.not_infix_nil rest).symm

/-! ## Blocks of another kind -/

/-- A written block with another label is no certificate, whatever follows it. -/
theorem locate_write_append {b : Pem.Block} (hb : Pem.IsLabel b.label)
    (other : b.label ≠ "CERTIFICATE") (rest : Bytes) :
    locate (Pem.write b ++ rest) = .error .notCertificate := by
  obtain ⟨after, written⟩ := Pem.write_opening b
  have opens : Pem.write b ++ rest =
      [] ++ (Pem.beginMarker ++ (Utf8.ofString b.label ++ (Pem.dashes ++ after) ++ rest)) := by
    rw [written, List.append_assoc, List.nil_append]
  rw [opens, locate_of_marker Pem.not_infix_nil, if_neg]
  rintro ⟨l, same⟩
  rw [← List.nil_append (Pem.beginMarker ++ _), ← opens] at same
  have frame := Pem.nextFrame?_write b hb rest
  rw [← same] at frame
  exact other (Utf8.ofString_injective (opening_of_nextFrame? frame))

/-- A text that a signing request or a private key is kept in. -/
def IsRequestOrKey (text : Bytes) : Prop :=
  ∃ der, text = Pem.write ⟨Pkcs10.Request.label, der⟩ ∨ text = Rsa.keyPem der

/-- Every signing request is kept in such a text. -/
theorem isRequestOrKey_request (r : Pkcs10.Request) : IsRequestOrKey r.pem :=
  ⟨r.encode, .inl rfl⟩

/-- Every private key is kept in such a text. -/
theorem isRequestOrKey_key (k : Rsa.PrivateKey) : IsRequestOrKey k.pem :=
  ⟨k.der, .inr rfl⟩

theorem locate_of_isRequestOrKey {text : Bytes} (h : IsRequestOrKey text) (rest : Bytes) :
    locate (text ++ rest) = .error .notCertificate := by
  obtain ⟨der, rfl | rfl⟩ := h
  · refine locate_write_append ?_ ?_ rest
    · show Pem.IsLabel Pkcs10.Request.label
      decide
    · show Pkcs10.Request.label ≠ "CERTIFICATE"
      decide
  · refine locate_write_append ?_ ?_ rest
    · show Pem.IsLabel "PRIVATE KEY"
      decide
    · show "PRIVATE KEY" ≠ "CERTIFICATE"
      decide

/-- A text that no certificate can be loaded from is unreadable to every policy. -/
theorem outcome_evaluate_of_load {e : ReadError} (h : load data = .error (.unreadable e))
    (p : Rotation.Policy) (key : Bytes) (now : Present) :
    (p.evaluate (some ⟨data, key⟩) now).outcome = .ok .unreadable := by
  have told : expiration data = .error (.unreadable e) := by
    unfold expiration
    rw [h]
    rfl
  exact Rotation.Policy.outcome_evaluate_unreadable told

/-! ## The first block of a text -/

/-- Without a begin marker there is no block, and with a first one that does not open a
certificate the block is none; these are the texts that are refused unparsed. From any other text
comes only the certificate that the body at its first marker spells. In front of that marker
anything may stand that is none itself, be it the beginning of one. So the texts of keys and of
requests never hold a certificate, and a policy takes them for unreadable, whatever follows. -/
theorem load_first_block (data : Bytes) :
    (load data = .error (.unreadable .noBlock) ↔ ¬ Pem.beginMarker <:+: data) ∧
      (load data = .error (.unreadable .notCertificate) ↔
        Pem.beginMarker <:+: data ∧ ¬ Opens data) ∧
      (∀ c, load data = .ok c → ∃ text rest der, HasFirstBody data (Utf8.encode text) rest ∧
        Pem.Spells text der ∧ decode? der = some c) ∧
      (∀ before, ¬ Pem.beginMarker <:+: before → Pem.beginMarker <+: data →
        load (before ++ data) = load data) ∧
      ∀ text, IsRequestOrKey text →
        load (text ++ data) = .error (.unreadable .notCertificate) ∧
        ∀ (p : Rotation.Policy) (key : Bytes) (now : Present),
          (p.evaluate (some ⟨text ++ data, key⟩) now).outcome = .ok .unreadable := by
  refine ⟨?_, ?_, fun c => exists_body_of_load, ?_, ?_⟩
  · rw [load_eq_error_iff (by decide), locate_eq_noBlock_iff]
  · rw [load_eq_error_iff (by decide), locate_eq_notCertificate_iff]
  · intro before free opens
    exact load_congr (locate_append free opens)
  · intro text h
    have refused := load_of_locate_error (locate_of_isRequestOrKey h data)
    exact ⟨refused, outcome_evaluate_of_load refused⟩

/-- The text of a certificate that ends with the year 2026. -/
def sampleText : Bytes := Pem.write (block (sample 2 ⟨.short, ⟨2027, 1, 1, 0, 0, 0⟩⟩).encode)

theorem load_sampleText : load sampleText = .ok (sample 2 ⟨.short, ⟨2027, 1, 1, 0, 0, 0⟩⟩) := by
  have held : Holds sampleText (sample 2 ⟨.short, ⟨2027, 1, 1, 0, 0, 0⟩⟩) := by
    rw [sampleText, holds_write_iff]
    decide +kernel
  rw [load_of_holds held, if_pos (.inr rfl)]

/-- Behind the beginning of a begin marker the certificate is still the first block; behind a
private key or a request it is not. -/
theorem load_first_block_sample :
    (∃ text rest der,
      HasFirstBody (Utf8.ofString "ca -----BEGIN" ++ sampleText) (Utf8.encode text) rest ∧
      Pem.Spells text der ∧
      decode? der = some (sample 2 ⟨.short, ⟨2027, 1, 1, 0, 0, 0⟩⟩)) ∧
      (Rotation.Policy.standard.evaluate
        (some ⟨Rsa.PrivateKey.pem ⟨61, 53, 2753, 17⟩ ++ sampleText, []⟩)
        (.named ⟨⟨2026, 1, 1, 0, 0, 0⟩, 0, none⟩)).outcome = .ok .unreadable ∧
      load (Pkcs10.Request.pem ⟨⟨"hook", ⟨3233, 17⟩, [.dns "hook"]⟩, []⟩ ++ sampleText) =
        .error (.unreadable .notCertificate) := by
  have free : ¬ Pem.beginMarker <:+: Utf8.ofString "ca -----BEGIN" := by
    rw [← cut?_eq_none_iff]
    decide
  have opens : Pem.beginMarker <+: sampleText := by
    obtain ⟨rest, written⟩ := Pem.write_opening
      (block (sample 2 ⟨.short, ⟨2027, 1, 1, 0, 0, 0⟩⟩).encode)
    exact ⟨_, written.symm⟩
  obtain ⟨-, -, -, front, others⟩ := load_first_block sampleText
  obtain ⟨-, -, body, -, -⟩ := load_first_block (Utf8.ofString "ca -----BEGIN" ++ sampleText)
  exact ⟨body _ ((front _ free opens).trans load_sampleText),
    (others _ (isRequestOrKey_key _)).2 .standard [] (.named ⟨⟨2026, 1, 1, 0, 0, 0⟩, 0, none⟩),
    (others _ (isRequestOrKey_request _)).1⟩

end Certificate

end CertRenewal
