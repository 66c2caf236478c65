import CertRenewal.Proofs.StrictCertificates

/-
  Layouts of the text of a certificate. The base64 of a byte string may be cut into lines of any
  lengths, and each line may end as it likes. Nothing of this reaches the certificate: white space
  is dropped, no end line begins inside, and since no line is empty there is no blank line that
  would set headers apart. The last holds because behind a line feed always comes a character of
  base64. Main statement: `load_layout`, what a text loads depends on the bytes only.
-/

namespace CertRenewal

namespace Pem

/-! ## Lines -/

/-- A line end: spaces and tabs, and then a line feed, with or without a carriage return. -/
def IsLineEnd (s : List Char) : Prop :=
  ∃ blanks, (∀ c ∈ blanks, c = ' ' ∨ c = '\t') ∧ (s = blanks ++ ['\n'] ∨ s = blanks ++ ['\r', '\n'])

/-- The text is laid out in lines. None of them is empty, each has its own length and its own end,
and the last one may have no end. -/
inductive IsLaid : List Char → List Char → Prop where
  | nil : IsLaid [] []
  | last {line : List Char} (nonempty : line ≠ []) : IsLaid line line
  | cons {line ending text laid : List Char} (nonempty : line ≠ []) (ends : IsLineEnd ending)
      (rest : IsLaid text laid) : IsLaid (line ++ text) (line ++ (ending ++ laid))

/-- No character is white space. -/
def IsSolid (s : List Char) : Prop := ∀ c ∈ s, Text.isWhiteSpace c = false

theorem isSolid_encode (der : Bytes) : IsSolid (Base64.encode der) := fun _ hc =>
  (Base64.plain_of_mem_encode hc).2.2

theorem IsLineEnd.exists_front {s : List Char} (h : IsLineEnd s) :
    ∃ front, s = front ++ ['\n'] ∧ ∀ c ∈ front, c = ' ' ∨ c = '\t' ∨ c = '\r' := by
  obtain ⟨blanks, only, rfl | rfl⟩ := h
  · refine ⟨blanks, rfl, fun c hc => ?_⟩
    rcases only c hc with rfl | rfl <;> simp
  · refine ⟨blanks ++ ['\r'], by rw [List.append_assoc]; rfl, fun c hc => ?_⟩
    rcases List.mem_append.1 hc with hc | hc
    · rcases only c hc with rfl | rfl <;> simp
    · rw [List.mem_singleton.1 hc]
      simp

/-- The characters of a line end are white space, in ASCII, and such as are skipped after a begin
line. -/
theorem IsLineEnd.of_mem {s : List Char} (h : IsLineEnd s) {c : Char} (hc : c ∈ s) :
    Text.isWhiteSpace c = true ∧ c.toNat < 128 ∧ c ≠ '-' ∧
      isLineSpace (UInt8.ofNat c.toNat) = true := by
  obtain ⟨front, rfl, only⟩ := h.exists_front
  rcases List.mem_append.1 hc with hc | hc
  · rcases only c hc with rfl | rfl | rfl <;> decide
  · rw [List.mem_singleton.1 hc]
    decide

section Laid

variable {text laid : List Char}

/-- Without its white space a layout is the text. -/
theorem IsLaid.filter_eq (h : IsLaid text laid) (solid : IsSolid text) :
    laid.filter (!Text.isWhiteSpace ·) = text := by
  have keep : ∀ {l : List Char}, IsSolid l → l.filter (!Text.isWhiteSpace ·) = l := by
    intro l hl
    exact List.filter_eq_self.2 fun c hc => by rw [hl c hc]; rfl
  induction h with
  | nil => rfl
  | last nonempty => exact keep solid
  | @cons line ending text laid nonempty ends rest ih =>
    obtain ⟨first, others⟩ := List.forall_mem_append.1 solid
    have gone : ending.filter (!Text.isWhiteSpace ·) = [] :=
      List.filter_eq_nil_iff.2 fun c hc => by rw [(ends.of_mem hc).1]; decide
    rw [List.filter_append, List.filter_append, keep first, gone, ih others, List.nil_append]

theorem IsLaid.head?_eq (h : IsLaid text laid) : laid.head? = text.head? := by
  cases h with
  | nil => rfl
  | last nonempty => rfl
  | cons nonempty ends rest =>
    rw [List.head?_append_of_ne_nil _ nonempty, List.head?_append_of_ne_nil _ nonempty]

/-- What a layout holds beside the text are characters of line ends. -/
theorem IsLaid.of_mem (h : IsLaid text laid) {c : Char} (hc : c ∈ laid) :
    c ∈ text ∨ ∃ ending, IsLineEnd ending ∧ c ∈ ending := by
  induction h with
  | nil => exact .inl hc
  | last nonempty => exact .inl hc
  | @cons line ending text laid nonempty ends rest ih =>
    simp only [List.mem_append] at hc ⊢
    rcases hc with hc | hc | hc
    · exact .inl (.inl hc)
    · exact .inr ⟨ending, ends, hc⟩
    · exact (ih hc).imp_left .inr

/-- Behind a line feed comes no white space. This is what keeps lines from being blank. -/
theorem IsLaid.isChain (h : IsLaid text laid) (solid : IsSolid text) :
    laid.IsChain fun a b => a = '\n' → Text.isWhiteSpace b = false := by
  have free : ∀ {l : List Char}, '\n' ∉ l →
      l.IsChain fun a b => a = '\n' → Text.isWhiteSpace b = false := by
    intro l hl
    refine List.Pairwise.isChain (List.pairwise_of_forall_mem_list fun a ha b _ feed => ?_)
    exact absurd (feed ▸ ha) hl
  have whole : ∀ {l : List Char}, IsSolid l → '\n' ∉ l := fun hl hc =>
    absurd (hl _ hc) (by decide)
  induction h with
  | nil => exact .nil
  | last nonempty => exact free (whole solid)
  | @cons line ending text laid nonempty ends rest ih =>
    obtain ⟨first, others⟩ := List.forall_mem_append.1 solid
    obtain ⟨front, rfl, only⟩ := ends.exists_front
    have before : '\n' ∉ line ++ front := by
      rw [List.mem_append, not_or]
      refine ⟨whole first, fun hc => ?_⟩
      rcases only _ hc with feed | feed | feed <;> exact absurd feed (by decide)
    have parts : line ++ (front ++ ['\n'] ++ laid) = line ++ front ++ ('\n' :: laid) := by
      simp only [List.append_assoc, List.singleton_append]
    rw [parts, List.isChain_append, List.isChain_cons]
    refine ⟨free before, ⟨fun c hc _ => ?_, ih others⟩, fun a ha _ _ feed => ?_⟩
    · rw [rest.head?_eq] at hc
      exact others c (List.mem_of_mem_head? hc)
    · exact absurd (feed ▸ List.mem_of_mem_getLast? ha) before

/-- No line is blank, so nothing of a layout is taken for headers. -/
theorem IsLaid.splitHeaders_eq (h : IsLaid text laid) (solid : IsSolid text) :
    splitHeaders laid = ([], laid) := by
  have chain := h.isChain solid
  have missing : ∀ {marker : List Char} {c : Char}, Text.isWhiteSpace c = true →
      ['\n', c] <:+: marker → scan? marker laid = none := by
    intro marker c white inside
    cases found : scan? marker laid with
    | none => rfl
    | some parts =>
      obtain ⟨before, rest⟩ := parts
      have stands : marker <:+: laid :=
        ⟨before, rest, by rw [List.append_assoc, eq_append_of_scan? found]⟩
      have pair : [ '\n', c].IsChain fun a b => a = '\n' → Text.isWhiteSpace b = false :=
        List.IsChain.infix chain (inside.trans stands)
      have next := List.isChain_pair.1 pair rfl
      rw [white] at next
      cases next
  have feeds := missing (c := '\n') (by decide) (List.infix_refl ['\n', '\n'])
  have returns : ['\n', '\r'] <:+: ['\r', '\n', '\r', '\n'] := ⟨['\r'], ['\n'], rfl⟩
  unfold splitHeaders
  rw [feeds, missing (by decide) returns]
  rfl

/-- A layout of the base64 of a byte string spells the byte string. -/
theorem IsLaid.spells {der : Bytes} (h : IsLaid (Base64.encode der) laid) : Spells laid der := by
  have solid := isSolid_encode der
  rw [Spells, h.splitHeaders_eq solid]
  refine ⟨fun header hh => ?_, h.filter_eq solid⟩
  have none : lines [] = [] := by decide
  rw [none] at hh
  cases hh

end Laid

/-- Lines that each have a line feed and nothing more for an end are a layout. -/
theorem isLaid_flatMap_line {pieces : List (List Char)} (h : ∀ p ∈ pieces, p ≠ []) :
    IsLaid pieces.flatten (pieces.flatMap line) := by
  induction pieces with
  | nil => exact .nil
  | cons p pieces ih =>
    obtain ⟨first, others⟩ := List.forall_mem_cons.1 h
    have feed : IsLineEnd ['\n'] := ⟨[], List.forall_mem_nil _, .inl rfl⟩
    rw [List.flatten_cons, List.flatMap_cons, line, List.append_assoc]
    exact .cons first feed (ih others)

end Pem

/-! ## Certificates -/

namespace Certificate

/-- The text is the block of a certificate with the bytes in some layout. Line ends may stand
behind its begin line and behind its end line. -/
def IsLaidOut (der data : Bytes) : Prop :=
  ∃ opening body closing,
    data = Utf8.encode ("-----BEGIN CERTIFICATE-----".toList ++
      (opening ++ (body ++ ("-----END CERTIFICATE-----".toList ++ closing)))) ∧
    (opening = [] ∨ Pem.IsLineEnd opening) ∧ Pem.IsLaid (Base64.encode der) body ∧
    (closing = [] ∨ Pem.IsLineEnd closing)

theorem isLaidOut_write (der : Bytes) : IsLaidOut der (Pem.write (block der)) := by
  have feed : Pem.IsLineEnd ['\n'] := ⟨[], List.forall_mem_nil _, .inl rfl⟩
  have begins : "-----BEGIN CERTIFICATE-----".toList =
      "-----BEGIN ".toList ++ ("CERTIFICATE".toList ++ "-----".toList) := by decide
  have ends : "-----END CERTIFICATE-----".toList =
      "-----END ".toList ++ ("CERTIFICATE".toList ++ "-----".toList) := by decide
  refine ⟨['\n'], Pem.bodyText der, ['\n'], ?_, .inr feed, ?_, .inr feed⟩
  · rw [Pem.write, Pem.text, begins, ends]
    simp only [Pem.line, Pem.bodyText, List.append_assoc]
    rfl
  · rw [← Pem.flatten_bodyLines]
    exact Pem.isLaid_flatMap_line fun p hp => Pieces.ne_nil_of_mem_chunks hp

variable {der data : Bytes}

/-- The first body of a layout is its lines. -/
theorem IsLaidOut.exists_body (h : IsLaidOut der data) :
    ∃ body rest, HasFirstBody data (Utf8.encode body) rest ∧ Pem.Spells body der ∧
      Pem.read? rest = some [] := by
  obtain ⟨opening, body, closing, rfl, opens, laid, closes⟩ := h
  -- Around the lines stands nothing but the characters of line ends.
  have ends : ∀ {s : List Char}, s = [] ∨ Pem.IsLineEnd s → ∀ c ∈ s,
      c.toNat < 128 ∧ c ≠ '-' ∧ Pem.isLineSpace (UInt8.ofNat c.toNat) = true := by
    intro s hs c hc
    rcases hs with rfl | hs
    · cases hc
    · exact (hs.of_mem hc).2
  have plain : ∀ c ∈ body, c.toNat < 128 ∧ c ≠ '-' := by
    intro c hc
    rcases laid.of_mem hc with hc | ⟨ending, hs, hc⟩
    · obtain ⟨ascii, dash, -⟩ := Base64.plain_of_mem_encode hc
      exact ⟨ascii, dash⟩
    · obtain ⟨-, ascii, dash, -⟩ := hs.of_mem hc
      exact ⟨ascii, dash⟩
  have quiet : (45 : UInt8) ∉ Utf8.encode closing :=
    Pem.dash_not_mem_encode fun c hc => ⟨(ends closes c hc).1, (ends closes c hc).2.1⟩
  refine ⟨body, Utf8.encode closing, ⟨[], Utf8.encode opening, ?_, Pem.not_infix_nil, ?_, ?_, ?_⟩,
    laid.spells, ?_⟩
  · simp only [Utf8.encode_append]
    rfl
  · intro x hx
    rw [Utf8.encode_of_lt fun c hc => (ends opens c hc).1] at hx
    obtain ⟨c, hc, rfl⟩ := List.mem_map.1 hx
    exact (ends opens c hc).2.2
  · intro x hx
    rw [Utf8.encode_of_lt fun c hc => (plain c hc).1, List.head?_map, laid.head?_eq] at hx
    obtain ⟨c, hc, rfl⟩ := Option.mem_map.1 hx
    obtain ⟨ascii, -, white⟩ := Base64.plain_of_mem_encode (List.mem_of_mem_head? hc)
    rw [Bool.eq_false_iff]
    intro space
    rw [Pem.isWhiteSpace_of_isLineSpace ascii space] at white
    cases white
  · rw [endLine_eq, List.append_assoc, List.append_assoc]
    exact Pem.scan?_append (m := 45) (by decide) (Pem.dash_not_mem_encode plain) _
  · refine Pem.read?_of_no_marker fun inside => quiet (inside.subset ?_)
    decide

theorem IsLaidOut.load_eq (h : IsLaidOut der data) :
    load data = match decode? der with
      | none => .error (.unreadable .malformed)
      | some c =>
        if c.IsKnown then .ok c else .error (.anomalous (.unknownVersion c.body.version)) := by
  obtain ⟨body, rest, first, spelled, ordered⟩ := h.exists_body
  obtain ⟨block, located, blocks⟩ := first.ofBlocks?_eq spelled
  rw [load_of_locate_ok located, blocks, ordered]
  rfl

/-- What a text loads is what its bytes are decoded to, in whatever lines they are written: the
certificate, if they are one, and else the fault they have. So all layouts of the same bytes are
loaded alike, that of the writer among them, and a policy decides the same of them. -/
theorem load_layout (laid : IsLaidOut der data) :
    (load data = .error (.unreadable .malformed) ↔ decode? der = none) ∧
      (∀ c, load data = .ok c ↔ decode? der = some c ∧ c.IsKnown) ∧
      (∀ version, load data = .error (.anomalous (.unknownVersion version)) ↔
        ∃ c, decode? der = some c ∧ ¬ c.IsKnown ∧ c.body.version = version) ∧
      load data = load (Pem.write (block der)) ∧
      ∀ other, IsLaidOut der other → load other = load data ∧
        expiration other = expiration data ∧
        ∀ (p : Rotation.Policy) (key : Bytes) (now : Present),
          p.evaluate (some ⟨other, key⟩) now = p.evaluate (some ⟨data, key⟩) now := by
  have decoded := laid.load_eq
  have alike : ∀ other, IsLaidOut der other → load other = load data := fun other h =>
    h.load_eq.trans decoded.symm
  refine ⟨?_, ?_, ?_, (alike _ (isLaidOut_write der)).symm, ?_⟩
  · rw [decoded]
    cases decode? der with
    | none => simp
    | some c => by_cases known : c.IsKnown <;> simp [known]
  · intro c
    rw [decoded]
    cases decode? der with
    | none => simp
    | some found =>
      by_cases known : found.IsKnown
      · simp only [if_pos known, Except.ok.injEq, Option.some.injEq]
        constructor
        · rintro rfl
          exact ⟨rfl, known⟩
        · exact And.left
      · simp only [if_neg known, reduceCtorEq, Option.some.injEq, false_iff, not_and]
        rintro rfl
        exact known
  · intro version
    rw [decoded]
    cases decode? der with
    | none => simp
    | some found => by_cases known : found.IsKnown <;> simp [known]
  · intro other h
    have expires := expiration_congr (alike other h)
    exact ⟨alike other h, expires, fun p _ now => Rotation.evaluate_congr_pair p now expires⟩

/-- A text in three lines, each with another end: one character, 99 characters, and the rest
without an end. -/
def crookedText (der : Bytes) : Bytes :=
  let base64 := Base64.encode der
  Utf8.encode ("-----BEGIN CERTIFICATE-----".toList ++ ([' ', '\n'] ++
    ((base64.take 1 ++ (['\t', ' ', '\r', '\n'] ++ ((base64.drop 1).take 99 ++
      (['\n'] ++ (base64.drop 1).drop 99)))) ++
      ("-----END CERTIFICATE-----".toList ++ ['\r', '\n']))))

theorem isLaidOut_crookedText (long : 100 < (Base64.encode der).length) :
    IsLaidOut der (crookedText der) := by
  have blank : ∀ c ∈ [' '], c = ' ' ∨ c = '\t' := by simp
  have blanks : ∀ c ∈ ['\t', ' '], c = ' ' ∨ c = '\t' := by simp
  have nonempty : ∀ {l : List Char}, 0 < l.length → l ≠ [] := fun h => List.length_pos_iff.1 h
  have first : (Base64.encode der).take 1 ≠ [] := nonempty (by rw [List.length_take]; omega)
  have second : ((Base64.encode der).drop 1).take 99 ≠ [] :=
    nonempty (by rw [List.length_take, List.length_drop]; omega)
  have third : ((Base64.encode der).drop 1).drop 99 ≠ [] :=
    nonempty (by rw [List.length_drop, List.length_drop]; omega)
  have lines := Pem.IsLaid.cons first ⟨_, blanks, .inr rfl⟩
    (.cons second ⟨[], List.forall_mem_nil _, .inl rfl⟩ (.last third))
  rw [List.take_append_drop, List.take_append_drop] at lines
  exact ⟨_, _, _, rfl, .inr ⟨_, blank, .inl rfl⟩, lines,
    .inr ⟨[], List.forall_mem_nil _, .inr rfl⟩⟩

/-- The sample certificate is loaded from such a text, and a byte that is none is refused, though
its padding stands in two lines. -/
theorem load_layout_crookedText :
    load (crookedText (sample 2 ⟨.short, ⟨2027, 1, 1, 0, 0, 0⟩⟩).encode) =
        .ok (sample 2 ⟨.short, ⟨2027, 1, 1, 0, 0, 0⟩⟩) ∧
      load (Utf8.ofString "-----BEGIN CERTIFICATE-----\nAA=\t\r\n=-----END CERTIFICATE-----") =
        .error (.unreadable .malformed) := by
  have crooked : IsLaidOut (sample 2 ⟨.short, ⟨2027, 1, 1, 0, 0, 0⟩⟩).encode
      (crookedText (sample 2 ⟨.short, ⟨2027, 1, 1, 0, 0, 0⟩⟩).encode) :=
    isLaidOut_crookedText (by decide +kernel)
  have split : IsLaidOut [0]
      (Utf8.ofString "-----BEGIN CERTIFICATE-----\nAA=\t\r\n=-----END CERTIFICATE-----") := by
    have first : ['A', 'A', '='] ≠ [] := by decide
    have second : ['='] ≠ [] := by decide
    have tab : ∀ c ∈ ['\t'], c = ' ' ∨ c = '\t' := by simp
    have lines := Pem.IsLaid.cons first ⟨_, tab, .inr rfl⟩ (.last second)
    refine ⟨['\n'], _, [], ?_, .inr ⟨[], List.forall_mem_nil _, .inl rfl⟩, lines, .inl rfl⟩
    decide +kernel
  obtain ⟨-, loads, -⟩ := load_layout crooked
  obtain ⟨refused, -⟩ := load_layout split
  exact ⟨(loads _).2 ⟨by decide +kernel, .inr rfl⟩, refused.2 (by decide +kernel)⟩

end Certificate

end CertRenewal
