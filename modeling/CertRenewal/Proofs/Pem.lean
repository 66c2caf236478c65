import CertRenewal.Pem.Block
import CertRenewal.Proofs.Utf8

/-
  PEM blocks read after they were written. A block that is written has one frame, whatever
  follows it, and reading the text gives back the block: `read?_write`. Its body is base64 in
  lines of 64 characters, of which only the last may be shorter, and no line is empty.
-/

namespace CertRenewal

/-! ## The base64 alphabet -/

namespace Base64

theorem mem_encode {b : Bytes} {c : Char} (h : c ∈ encode b) :
    c = '=' ∨ ∃ n, n < 64 ∧ c = digit n := by
  fun_induction encode b with
  | case1 => cases h
  | case2 a =>
    have ha := a.toNat_lt
    simp only [encode1, List.mem_cons, List.not_mem_nil, or_false] at h
    rcases h with h | h | h | h
    · exact .inr ⟨_, by omega, h⟩
    · exact .inr ⟨_, by omega, h⟩
    · exact .inl h
    · exact .inl h
  | case3 a b =>
    have ha := a.toNat_lt
    have hb := b.toNat_lt
    simp only [encode2, List.mem_cons, List.not_mem_nil, or_false] at h
    rcases h with h | h | h | h
    · exact .inr ⟨_, by omega, h⟩
    · exact .inr ⟨_, by omega, h⟩
    · exact .inr ⟨_, by omega, h⟩
    · exact .inl h
  | case4 a b d rest ih =>
    have ha := a.toNat_lt
    have hb := b.toNat_lt
    have hd := d.toNat_lt
    rw [List.mem_append] at h
    rcases h with h | h
    · simp only [encode3, List.mem_cons, List.not_mem_nil, or_false] at h
      rcases h with h | h | h | h <;> exact .inr ⟨_, by omega, h⟩
    · exact ih h

/-- The characters of base64 are ASCII, no dash and no white space. -/
theorem plain_of_mem_encode {b : Bytes} {c : Char} (h : c ∈ encode b) :
    c.toNat < 128 ∧ c ≠ '-' ∧ Text.isWhiteSpace c = false := by
  have digits : ∀ n : Fin 64, (digit n).toNat < 128 ∧ digit n ≠ '-' ∧
      Text.isWhiteSpace (digit n) = false := by decide
  rcases mem_encode h with rfl | ⟨n, hn, rfl⟩
  · decide
  · exact digits ⟨n, hn⟩

/-- Base64 has at least as many characters as there were bytes. -/
theorem length_le_length_encode (b : Bytes) : b.length ≤ (encode b).length := by
  fun_induction encode b with
  | case1 => simp
  | case2 a => simp [encode1]
  | case3 a b => simp [encode2]
  | case4 a b c rest ih =>
    simp only [List.length_append, List.length_cons, encode3, List.length_nil]
    omega

theorem encode_eq_nil_iff {b : Bytes} : encode b = [] ↔ b = [] := by
  constructor
  · intro h
    have size := length_le_length_encode b
    rw [h] at size
    exact List.length_eq_zero_iff.1 (Nat.le_zero.1 size)
  · rintro rfl
    rfl

theorem length_encode_le (b : Bytes) : (encode b).length ≤ 2 * b.length + 2 := by
  fun_induction encode b with
  | case1 => simp
  | case2 a => simp [encode1]
  | case3 a b => simp [encode2]
  | case4 a b c rest ih =>
    simp only [List.length_append, List.length_cons, encode3, List.length_nil]
    omega

end Base64

/-! ## Lines -/

namespace Pieces

variable {α : Type}

/-- All pieces but the last are full, and the last is not empty. -/
def IsCut (size : Nat) (pieces : List (List α)) : Prop :=
  (∀ piece ∈ pieces.dropLast, piece.length = size) ∧
    ∀ piece ∈ pieces.getLast?, 1 ≤ piece.length ∧ piece.length ≤ size

theorem isCut_chunks (size : Nat) (l : List α) : IsCut (size + 1) (chunks size l) := by
  fun_induction chunks size l with
  | case1 => exact ⟨by simp, by simp⟩
  | case2 x rest ih =>
    cases hs : chunks size (rest.drop size) with
    | nil =>
      refine ⟨by simp, ?_⟩
      intro piece hp
      obtain rfl : x :: rest.take size = piece := by simpa using hp
      simp only [List.length_cons, List.length_take]
      omega
    | cons piece pieces =>
      -- A piece follows, so there were more elements than one piece takes.
      have full : size ≤ rest.length := by
        refine Nat.le_of_not_lt fun short => ?_
        rw [List.drop_of_length_le (by omega), chunks_nil] at hs
        cases hs
      rw [hs] at ih
      refine ⟨?_, ?_⟩
      · intro p hp
        rw [List.dropLast_cons_of_ne_nil (by simp), List.mem_cons] at hp
        rcases hp with rfl | hp
        · simp only [List.length_cons, List.length_take]
          omega
        · exact ih.1 p hp
      · intro p hp
        rw [List.getLast?_cons_cons] at hp
        exact ih.2 p hp

theorem ne_nil_of_mem_chunks {size : Nat} {l piece : List α} (h : piece ∈ chunks size l) :
    piece ≠ [] := by
  fun_induction chunks size l with
  | case1 => cases h
  | case2 x rest ih =>
    rcases List.mem_cons.1 h with rfl | h
    · simp
    · exact ih h

theorem mem_of_mem_chunks {size : Nat} {l piece : List α} {x : α} (h : piece ∈ chunks size l)
    (hx : x ∈ piece) : x ∈ l := by
  rw [← flatten_chunks size l]
  exact List.mem_flatten.2 ⟨piece, h, hx⟩

end Pieces

namespace Pem

/-! ## Scanning -/

section Scan

variable {α : Type} [DecidableEq α]

theorem scanFrom?_append_self (marker missing rest : List α) :
    scanFrom? marker missing (missing ++ rest) = some (missing, rest) := by
  induction missing with
  | nil => cases rest <;> rfl
  | cons m missing ih => simp [scanFrom?, ih]

/-- What holds no start of the marker is passed over. -/
theorem scanFrom?_append {m : α} {ms x : List α} (h : m ∉ x) (l : List α) :
    scanFrom? (m :: ms) (m :: ms) (x ++ l) =
      (scanFrom? (m :: ms) (m :: ms) l).map fun (read, rest) => (x ++ read, rest) := by
  induction x with
  | nil => simp
  | cons y x ih =>
    rw [List.mem_cons, not_or] at h
    rw [List.cons_append, scanFrom?, if_neg (Ne.symm h.1), ih h.2, Option.map_map]
    rfl

/-- A marker is found behind a part in which it nowhere starts. -/
theorem scan?_append {marker x : List α} {m : α} (hm : marker.head? = some m) (h : m ∉ x)
    (rest : List α) : scan? marker (x ++ (marker ++ rest)) = some (x, rest) := by
  cases marker with
  | nil => cases hm
  | cons m' ms =>
    cases hm
    unfold scan?
    rw [scanFrom?_append h, scanFrom?_append_self]
    simp

theorem scan?_eq_none {marker l : List α} {m : α} (hm : marker.head? = some m) (h : m ∉ l) :
    scan? marker l = none := by
  cases marker with
  | nil => cases hm
  | cons m' ms =>
    cases hm
    have none : scanFrom? (m :: ms) (m :: ms) (l ++ []) = Option.none :=
      scanFrom?_append h []
    rw [List.append_nil] at none
    unfold scan?
    rw [none]
    rfl

end Scan

/-! ## Bodies -/

/-- Lines that are neither empty nor broken hold no blank line. -/
theorem scanFrom?_lines {pieces : List (List Char)} (h : ∀ p ∈ pieces, p ≠ [] ∧ '\n' ∉ p)
    {missing : List Char} (hm : missing = ['\n', '\n'] ∨ missing = ['\n']) :
    scanFrom? ['\n', '\n'] missing (pieces.flatMap line) = none := by
  induction pieces generalizing missing with
  | nil => rcases hm with rfl | rfl <;> rfl
  | cons p pieces ih =>
    obtain ⟨hp, whole⟩ := h p (by simp)
    cases p with
    | nil => exact absurd rfl hp
    | cons c p =>
      rw [List.mem_cons, not_or] at whole
      have first : scanFrom? ['\n', '\n'] missing ((c :: p) ++ '\n' :: pieces.flatMap line) =
          (scanFrom? ['\n', '\n'] ['\n', '\n'] (p ++ '\n' :: pieces.flatMap line)).map
            fun found => (c :: found.1, found.2) := by
        rcases hm with rfl | rfl <;> rw [List.cons_append, scanFrom?, if_neg (Ne.symm whole.1)]
      have last : scanFrom? ['\n', '\n'] ['\n', '\n'] ('\n' :: pieces.flatMap line) = none := by
        rw [scanFrom?, if_pos rfl, ih (fun q hq => h q (by simp [hq])) (.inr rfl)]
        rfl
      rw [List.flatMap_cons, line, List.append_assoc, List.singleton_append, first,
        scanFrom?_append whole.2, last]
      rfl

theorem filter_lines {pieces : List (List Char)}
    (h : ∀ p ∈ pieces, ∀ c ∈ p, Text.isWhiteSpace c = false) :
    (pieces.flatMap line).filter (!Text.isWhiteSpace ·) = pieces.flatten := by
  induction pieces with
  | nil => rfl
  | cons p pieces ih =>
    have keep : p.filter (!Text.isWhiteSpace ·) = p :=
      List.filter_eq_self.2 fun c hc => by simp [h p (by simp) c hc]
    have feed : ['\n'].filter (!Text.isWhiteSpace ·) = [] := by decide
    rw [List.flatMap_cons, List.filter_append, line, List.filter_append, keep, feed,
      List.append_nil, List.flatten_cons, ih fun q hq => h q (by simp [hq])]

/-- A body of lines has no headers, and its contents are the lines without their ends. -/
theorem content?_lines {pieces : List (List Char)}
    (h : ∀ p ∈ pieces, p ≠ [] ∧ ∀ c ∈ p, Text.isWhiteSpace c = false) :
    content? (pieces.flatMap line) = Base64.decode? pieces.flatten := by
  have feed : ∀ p ∈ pieces, p ≠ [] ∧ '\n' ∉ p := fun p hp =>
    ⟨(h p hp).1, fun hc => absurd ((h p hp).2 _ hc) (by decide)⟩
  have noReturn : '\r' ∉ pieces.flatMap line := by
    intro hc
    obtain ⟨p, hp, hc⟩ := List.mem_flatMap.1 hc
    rw [line, List.mem_append, List.mem_singleton] at hc
    rcases hc with hc | hc
    · exact absurd ((h p hp).2 _ hc) (by decide)
    · exact absurd hc (by decide)
  have headers : splitHeaders (pieces.flatMap line) = ([], pieces.flatMap line) := by
    unfold splitHeaders
    rw [scan?, scanFrom?_lines feed (.inl rfl), scan?_eq_none rfl noReturn]
    rfl
  unfold content?
  rw [headers]
  dsimp only
  rw [filter_lines fun p hp => (h p hp).2]
  rfl

/-! ## Blocks -/

/-- A label that can stand in a line: ASCII characters other than the dash, and at least one. -/
def IsLabel (label : String) : Prop :=
  label ≠ "" ∧ ∀ c ∈ label.toList, c.toNat < 128 ∧ c ≠ '-'

instance (label : String) : Decidable (IsLabel label) :=
  @instDecidableAnd _ _ inferInstance (List.decidableBAll _ label.toList)

/-- The lines of a block between its begin line and its end line. -/
def bodyText (content : Bytes) : List Char := (bodyLines content).flatMap line

/-- The frame that a block is written as. -/
def Block.frame (b : Block) : Frame :=
  ⟨Utf8.ofString b.label, Utf8.encode (bodyText b.content), Utf8.ofString b.label⟩

theorem flatten_bodyLines (content : Bytes) : (bodyLines content).flatten = Base64.encode content :=
  Pieces.flatten_chunks 63 _

theorem plain_of_mem_bodyLines {content : Bytes} {p : List Char} (hp : p ∈ bodyLines content)
    {c : Char} (hc : c ∈ p) : c.toNat < 128 ∧ c ≠ '-' ∧ Text.isWhiteSpace c = false :=
  Base64.plain_of_mem_encode (Pieces.mem_of_mem_chunks hp hc)

theorem plain_of_mem_bodyText {content : Bytes} {c : Char} (hc : c ∈ bodyText content) :
    c.toNat < 128 ∧ c ≠ '-' := by
  obtain ⟨p, hp, hc⟩ := List.mem_flatMap.1 hc
  rw [line, List.mem_append, List.mem_singleton] at hc
  rcases hc with hc | rfl
  · have := plain_of_mem_bodyLines hp hc
    exact ⟨this.1, this.2.1⟩
  · decide

theorem dash_not_mem_encode {s : List Char} (h : ∀ c ∈ s, c.toNat < 128 ∧ c ≠ '-') :
    (45 : UInt8) ∉ Utf8.encode s := fun hx =>
  (h _ (Utf8.mem_of_mem_encode (fun c hc => (h c hc).1) hx)).2 (by decide)

theorem write_eq (b : Block) :
    write b = beginMarker ++ (b.frame.opening ++ (dashes ++ (10 :: (b.frame.body ++
      (endMarker ++ (b.frame.closing ++ (dashes ++ [10]))))))) := by
  have feed : Utf8.encode ['\n'] = [10] := by decide
  simp only [write, text, line, Utf8.encode_append, feed, List.append_assoc, List.singleton_append]
  rfl

theorem write_opening (b : Block) :
    ∃ rest, write b = beginMarker ++ (Utf8.ofString b.label ++ (dashes ++ rest)) :=
  ⟨_, write_eq b⟩

/-- What is skipped after a begin line is white space. -/
theorem isWhiteSpace_of_isLineSpace {c : Char} (ascii : c.toNat < 128)
    (space : isLineSpace (UInt8.ofNat c.toNat) = true) : Text.isWhiteSpace c = true := by
  have letters : ∀ n : Fin 128, isLineSpace (UInt8.ofNat n) = true →
      Text.isWhiteSpace (Char.ofNat n) = true := by decide
  have white := letters ⟨c.toNat, ascii⟩ space
  rwa [Char.ofNat_toNat] at white

/-- Skipping the end of the begin line leads to the body, and no further. -/
theorem dropWhile_body (b : Block) (rest : Bytes) :
    (10 :: (b.frame.body ++ (endMarker ++ rest))).dropWhile isLineSpace =
      b.frame.body ++ (endMarker ++ rest) := by
  have body : b.frame.body = Utf8.encode (bodyText b.content) := rfl
  rw [List.dropWhile_cons_of_pos (by decide), body]
  cases h : bodyLines b.content with
  | nil =>
    rw [bodyText, h]
    exact List.dropWhile_cons_of_neg (by decide)
  | cons p pieces =>
    have mem : p ∈ bodyLines b.content := by simp [h]
    cases p with
    | nil => exact absurd rfl (Pieces.ne_nil_of_mem_chunks mem)
    | cons c p =>
      have plain := plain_of_mem_bodyLines mem (List.mem_cons_self (a := c))
      have text : Utf8.encode (bodyText b.content) =
          UInt8.ofNat c.toNat :: Utf8.encode (p ++ '\n' :: pieces.flatMap line) := by
        rw [bodyText, h, List.flatMap_cons, line, List.append_assoc, List.cons_append,
          Utf8.encode_cons, Utf8.utf8EncodeChar_of_lt plain.1]
        rfl
      rw [text, List.cons_append, List.dropWhile_cons_of_neg]
      intro space
      have white := isWhiteSpace_of_isLineSpace plain.1 space
      rw [plain.2.2] at white
      cases white

/-- A block that was written is the next frame, whatever follows it. -/
theorem nextFrame?_write (b : Block) (h : IsLabel b.label) (rest : Bytes) :
    nextFrame? (write b ++ rest) = some (b.frame, 10 :: rest) := by
  have label : (45 : UInt8) ∉ b.frame.opening := dash_not_mem_encode h.2
  have body : (45 : UInt8) ∉ b.frame.body :=
    dash_not_mem_encode fun c hc => plain_of_mem_bodyText hc
  have first : scan? beginMarker (write b ++ rest) =
      some ([], b.frame.opening ++ (dashes ++ (10 :: (b.frame.body ++
        (endMarker ++ (b.frame.closing ++ (dashes ++ (10 :: rest)))))))) := by
    rw [write_eq]
    simp only [List.append_assoc, List.cons_append, List.nil_append]
    exact scan?_append (x := []) (m := 45) (by decide) (by simp) _
  unfold nextFrame?
  simp only [first, Option.bind_eq_bind, Option.bind_some]
  rw [scan?_append (m := 45) (by decide) label]
  simp only [Option.bind_some]
  rw [dropWhile_body, scan?_append (m := 45) (by decide) body]
  simp only [Option.bind_some]
  rw [scan?_append (x := b.frame.closing) (m := 45) (by decide) label]
  rfl

theorem frames_of_nextFrame? {data rest : Bytes} {f : Frame}
    (h : nextFrame? data = some (f, rest)) : frames data = f :: frames rest := by
  rw [frames.eq_def]
  split <;> simp_all

theorem frames_of_not_mem {data : Bytes} (h : (45 : UInt8) ∉ data) : frames data = [] := by
  have none : nextFrame? data = none := by
    unfold nextFrame?
    rw [scan?_eq_none (m := 45) (by decide) h]
    rfl
  rw [frames.eq_def]
  split <;> simp_all

/-- The frame of a block holds the block. -/
theorem block?_frame (b : Block) (h : IsLabel b.label) : b.frame.block? = some b := by
  have content : content? (bodyText b.content) = some b.content := by
    have lines : ∀ p ∈ bodyLines b.content, p ≠ [] ∧ ∀ c ∈ p, Text.isWhiteSpace c = false :=
      fun p hp =>
        ⟨Pieces.ne_nil_of_mem_chunks hp, fun c hc => (plain_of_mem_bodyLines hp hc).2.2⟩
    rw [bodyText, content?_lines lines, flatten_bodyLines, Base64.decode_encode]
  unfold Frame.block? Block.frame
  simp only [Utf8.toString?_ofString, Utf8.decode?_encode, content, Option.bind_eq_bind,
    Option.bind_some]
  rw [if_pos ⟨h.1, trivial⟩]

/-- A text that is one written block reads as that block and no other. -/
theorem read?_write (b : Block) (h : IsLabel b.label) : read? (write b) = some [b] := by
  have frame := nextFrame?_write b h []
  rw [List.append_nil] at frame
  unfold read?
  rw [frames_of_nextFrame? frame, frames_of_not_mem (by decide)]
  simp [block?_frame b h]

/-- The text is one block: its begin line, the base64 of its contents in lines of 64 characters,
the last one 1 to 64, and its end line, each with a newline. -/
def IsTextOf (b : Block) (data : Bytes) : Prop :=
  ∃ body : List (List Char),
    data = Utf8.encode
      (("-----BEGIN ".toList ++ b.label.toList ++ "-----\n".toList) ++
        body.flatMap (· ++ ['\n']) ++ ("-----END ".toList ++ b.label.toList ++ "-----\n".toList)) ∧
    Pieces.IsCut 64 body ∧ (body = [] ↔ b.content = []) ∧
    Base64.decode? body.flatten = some b.content

theorem isTextOf_write (b : Block) : IsTextOf b (write b) := by
  refine ⟨bodyLines b.content, ?_, Pieces.isCut_chunks 63 _, ?_, ?_⟩
  · rw [write, text]
    simp only [line, List.append_assoc]
    rfl
  · rw [← Base64.encode_eq_nil_iff, ← flatten_bodyLines]
    constructor
    · intro h
      rw [h]
      rfl
    · intro h
      exact List.eq_nil_iff_forall_not_mem.2 fun p hp =>
        Pieces.ne_nil_of_mem_chunks hp (List.flatten_eq_nil_iff.1 h p hp)
  · rw [flatten_bodyLines, Base64.decode_encode]

/-- Every line that is not empty grows by one character. -/
theorem length_flatMap_line_le {pieces : List (List Char)} (h : ∀ p ∈ pieces, p ≠ []) :
    (pieces.flatMap line).length ≤ 2 * pieces.flatten.length := by
  induction pieces with
  | nil => simp
  | cons p pieces ih =>
    have one := List.length_pos_iff.2 (h p List.mem_cons_self)
    have others := ih fun q hq => h q (List.mem_cons_of_mem _ hq)
    rw [List.flatMap_cons, List.flatten_cons, line]
    simp only [List.length_append, List.length_singleton]
    omega

theorem length_flatten_le (pieces : List (List Char)) :
    pieces.flatten.length ≤ (pieces.flatMap line).length := by
  induction pieces with
  | nil => simp
  | cons p pieces ih =>
    rw [List.flatMap_cons, List.flatten_cons, line]
    simp only [List.length_append]
    omega

theorem length_text (b : Block) :
    (text b).length = 32 + 2 * b.label.length + (bodyText b.content).length := by
  have begins : "-----BEGIN ".toList.length = 11 := by decide
  have ends : "-----END ".toList.length = 9 := by decide
  have dashes : "-----".toList.length = 5 := by decide
  simp only [text, line, bodyText, List.length_append, List.length_singleton, begins, ends,
    dashes, String.length_toList]
  omega

/-- The text of a block is longer than its contents. -/
theorem length_le_length_write (b : Block) : b.content.length ≤ (write b).length := by
  have base64 := Base64.length_le_length_encode b.content
  have lines := length_flatten_le (bodyLines b.content)
  have bytes := Utf8.length_le_length_encode (text b)
  rw [flatten_bodyLines] at lines
  rw [length_text, bodyText] at bytes
  rw [write]
  omega

/-- The text of a block is not much longer than its contents. -/
theorem length_write_le (b : Block) :
    (write b).length ≤ 16 * b.content.length + 8 * b.label.length + 144 := by
  have base64 := Base64.length_encode_le b.content
  have lines := length_flatMap_line_le (fun p hp => Pieces.ne_nil_of_mem_chunks hp :
    ∀ p ∈ bodyLines b.content, p ≠ [])
  have bytes := Utf8.length_encode_le (text b)
  rw [flatten_bodyLines] at lines
  rw [length_text, bodyText] at bytes
  rw [write]
  omega

end Pem

end CertRenewal
