import DurableCalc.Proofs.Json.Number

/-!
# JSON values are scanned whole

`IsValue` says that the scanner takes a byte string as one value and stops behind it, whatever
containers it stands in and whatever follows that does not go on with a number. Every text that the
grammar takes for a value is one.
-/

namespace DurableCalc.Json

open Text

/-- What follows cannot be the rest of a number. -/
def Ends (rest : Bytes) : Prop :=
  ∀ b ∈ rest.head?, isDigit b = false ∧ b ≠ 0x2e ∧ b ≠ 0x65 ∧ b ≠ 0x45

theorem ends_nil : Ends [] := by
  intro b hb
  cases hb

theorem ends_cons {b : UInt8} (rest : Bytes)
    (h : isDigit b = false ∧ b ≠ 0x2e ∧ b ≠ 0x65 ∧ b ≠ 0x45) : Ends (b :: rest) := by
  intro b' hb'
  cases hb'
  exact h

structure IsValue (v : Bytes) : Prop where
  starts : ∃ b rest, v = b :: rest ∧ isBlank b = false ∧ b ≠ 0x5d
  scan : ∀ (stack : List Frame) {rest : Bytes}, Ends rest →
    Json.scan stack .value (v ++ rest) = Json.scan stack .after rest

theorem scan_after_nil (rest : Bytes) : scan [] .after rest = some rest := by
  cases rest <;> rfl

theorem splitValue?_append {v rest : Bytes} (hv : IsValue v) (hrest : Ends rest) :
    splitValue? (v ++ rest) = some (v, rest) := by
  rw [splitValue?, hv.scan [] hrest, scan_after_nil]
  simp

theorem allBlank_nil : AllBlank [] := by
  intro b hb
  cases hb

theorem ends_blanks_append {blanks rest : Bytes} (hblanks : AllBlank blanks) (hrest : Ends rest) :
    Ends (blanks ++ rest) := by
  cases blanks with
  | nil => exact hrest
  | cons b blanks =>
    have hb := hblanks b (by simp)
    refine ends_cons _ ⟨?_, ?_, ?_, ?_⟩
    · simp only [isBlank, Bool.or_eq_true, beq_iff_eq] at hb
      rcases hb with ((rfl | rfl) | rfl) | rfl <;> rfl
    all_goals
      rintro rfl
      cases hb

theorem dropBlanks_blanks_append {blanks : Bytes} (h : AllBlank blanks) (rest : Bytes) :
    dropBlanks (blanks ++ rest) = dropBlanks rest :=
  List.dropWhile_append_of_pos h

theorem dropBlanks_cons {b : UInt8} (h : isBlank b = false) (rest : Bytes) :
    dropBlanks (b :: rest) = b :: rest := by
  simp [dropBlanks, h]

theorem IsValue.dropBlanks_append {v : Bytes} (hv : IsValue v) (rest : Bytes) :
    dropBlanks (v ++ rest) = v ++ rest := by
  obtain ⟨b, tail, rfl, hb, _⟩ := hv.starts
  exact dropBlanks_cons hb _

theorem splitValue?_dropBlanks {blanks v rest : Bytes} (hblanks : AllBlank blanks) (hv : IsValue v)
    (hrest : Ends rest) : splitValue? (dropBlanks (blanks ++ (v ++ rest))) = some (v, rest) := by
  rw [dropBlanks_blanks_append hblanks, hv.dropBlanks_append, splitValue?_append hv hrest]

/-- The only value of a text is found between the blanks around it. -/
theorem document?_spaced {before v after : Bytes} (hbefore : AllBlank before) (hv : IsValue v)
    (hafter : AllBlank after) : document? (before ++ (v ++ after)) = some v := by
  have hends : Ends after := by
    simpa using ends_blanks_append hafter ends_nil
  have hrest : dropBlanks after = [] := List.dropWhile_eq_nil_iff.2 hafter
  rw [document?, splitValue?_dropBlanks hbefore hv hends]
  dsimp only
  rw [hrest]
  rfl

theorem document?_eq_self {v : Bytes} (hv : IsValue v) : document? v = some v := by
  simpa using document?_spaced allBlank_nil hv allBlank_nil

theorem ofUInt8_ne {a b : UInt8} (h : a ≠ b) : Char.ofUInt8 a ≠ Char.ofUInt8 b :=
  fun he => h (eq_of_ofUInt8_eq he)

theorem ne_of_isDigit {a b : UInt8} (ha : isDigit a = true) (hb : isDigit b = false) : a ≠ b := by
  rintro rfl
  rw [ha] at hb
  cases hb

theorem isBlank_of_isDigit {b : UInt8} (hb : isDigit b = true) : isBlank b = false := by
  by_contra h
  simp only [Bool.not_eq_false, isBlank, Bool.or_eq_true, beq_iff_eq] at h
  rcases h with ((rfl | rfl) | rfl) | rfl <;> cases hb

theorem begin_digit {b : UInt8} (hb : isDigit b = true) (hzero : b ≠ 0x30) (stack : List Frame) :
    begin stack b = some (stack, .whole) := by
  have hne {a : UInt8} (ha : isDigit a = false) : Char.ofUInt8 b ≠ Char.ofUInt8 a :=
    ofUInt8_ne (ne_of_isDigit hb ha)
  unfold begin
  rw [isBlank_of_isDigit hb]
  split
  · rename_i h
    cases h
  split
  · exact absurd ‹_› (hne (a := 0x22) rfl)
  · exact absurd ‹_› (hne (a := 0x5b) rfl)
  · exact absurd ‹_› (hne (a := 0x7b) rfl)
  · exact absurd ‹_› (hne (a := 0x2d) rfl)
  · exact absurd ‹_› (ofUInt8_ne (b := 0x30) hzero)
  · exact absurd ‹_› (hne (a := 0x74) rfl)
  · exact absurd ‹_› (hne (a := 0x66) rfl)
  · exact absurd ‹_› (hne (a := 0x6e) rfl)
  · rfl

theorem scan_whole {mode : Mode} (hmode : mode = .value ∨ mode = .minus) {w : Bytes}
    (h : IsWhole w) (stack : List Frame) : ∃ mode', (mode' = .zero ∨ mode' = .whole) ∧
      ∀ rest, scan stack mode (w ++ rest) = scan stack mode' rest := by
  cases h with
  | zero => exact ⟨.zero, .inl rfl, fun rest => by rcases hmode with rfl | rfl <;> rfl⟩
  | digits hb hzero hdigits =>
    rename_i b bytes
    refine ⟨.whole, .inr rfl, fun rest => ?_⟩
    have hstep : step stack mode b = some (stack, .whole) := by
      rcases hmode with rfl | rfl
      · exact begin_digit hb hzero stack
      · have hne : Char.ofUInt8 b ≠ '0' := ofUInt8_ne (b := 0x30) hzero
        simp only [step, if_neg hne, hb, if_true]
    rw [List.cons_append, scan_cons hstep]
    exact scan_stay (fun b hb => by simp only [step, hdigits b hb, if_true]) rest

/-- Digits that go on with no digit, point or exponent are a value that has ended. -/
theorem scan_number_end {mode : Mode}
    (hmode : mode = .zero ∨ mode = .whole ∨ mode = .fraction ∨ mode = .exponent)
    (stack : List Frame) {rest : Bytes} (h : Ends rest) :
    scan stack mode rest = scan stack .after rest := by
  cases rest with
  | nil => rcases hmode with rfl | rfl | rfl | rfl <;> rfl
  | cons b rest =>
    obtain ⟨hdigit, hpoint, hexp, hexp'⟩ := h b rfl
    have hpoint := ofUInt8_ne (b := 0x2e) hpoint
    have hexp := ofUInt8_ne (b := 0x65) hexp
    have hexp' := ofUInt8_ne (b := 0x45) hexp'
    have hfollow : followDigits stack b = follow stack b := by
      unfold followDigits
      split
      · exact absurd ‹_› hpoint
      · exact absurd ‹_› hexp
      · exact absurd ‹_› hexp'
      · rfl
    have hstep : step stack mode b = step stack .after b := by
      rcases hmode with rfl | rfl | rfl | rfl <;>
        simp only [step, hdigit, Bool.false_eq_true, if_false]
      · exact hfollow
      · exact hfollow
      · split
        · exact absurd ‹_› hexp
        · exact absurd ‹_› hexp'
        · rfl
    simp only [scan, hstep]
    rcases hmode with rfl | rfl | rfl | rfl <;> rfl

theorem scan_exponent {mode : Mode} (hmode : mode = .zero ∨ mode = .whole ∨ mode = .fraction)
    {x rest : Bytes} (h : IsExponent x) (stack : List Frame) (hrest : Ends rest) :
    scan stack mode (x ++ rest) = scan stack .after rest := by
  cases h with
  | absent =>
    refine scan_number_end ?_ stack hrest
    rcases hmode with h | h | h <;> simp [h]
  | mark he hsign hdigits =>
    rename_i e b sign digits
    have hmark : step stack mode e = some (stack, .exponentMark) := by
      rcases hmode with rfl | rfl | rfl <;> rcases he with rfl | rfl <;> rfl
    have hb : isDigit b = true := hdigits b (by simp)
    have hplus : Char.ofUInt8 b ≠ '+' := ofUInt8_ne (b := 0x2b) (ne_of_isDigit hb rfl)
    have hminus : Char.ofUInt8 b ≠ '-' := ofUInt8_ne (b := 0x2d) (ne_of_isDigit hb rfl)
    have hdigit : step stack .exponentMark b = some (stack, .exponent) := by
      simp only [step, hb, if_true]
    have hdigit' : step stack .exponentSign b = some (stack, .exponent) := by
      simp only [step, hb, if_true]
    have hlater : scan stack .exponent (digits ++ rest) = scan stack .after rest :=
      (scan_stay (fun b hb => by simp only [step, hdigits b (by simp [hb]), if_true]) rest).trans
        (scan_number_end (by simp) stack hrest)
    rw [List.cons_append, scan_cons hmark, List.append_assoc, List.cons_append]
    rcases hsign with rfl | rfl | rfl
    · exact (scan_cons hdigit _).trans hlater
    · exact (scan_cons rfl _).trans ((scan_cons hdigit' _).trans hlater)
    · exact (scan_cons rfl _).trans ((scan_cons hdigit' _).trans hlater)

theorem scan_fraction {mode : Mode} (hmode : mode = .zero ∨ mode = .whole) {f x rest : Bytes}
    (hf : IsFraction f) (hx : IsExponent x) (stack : List Frame) (hrest : Ends rest) :
    scan stack mode (f ++ (x ++ rest)) = scan stack .after rest := by
  cases hf with
  | absent =>
    refine scan_exponent ?_ hx stack hrest
    rcases hmode with h | h <;> simp [h]
  | point hdigits =>
    rename_i b digits
    have hpoint : step stack mode 0x2e = some (stack, .point) := by
      rcases hmode with rfl | rfl <;> rfl
    have hdigit : step stack .point b = some (stack, .fraction) := by
      simp only [step, hdigits b (by simp), if_true]
    rw [List.cons_append, scan_cons hpoint, List.cons_append, scan_cons hdigit,
      scan_stay fun b hb => by simp only [step, hdigits b (by simp [hb]), if_true]]
    exact scan_exponent (by simp) hx stack hrest

theorem IsNumber.isValue {n : Bytes} (h : IsNumber n) : IsValue n := by
  cases h with
  | parts hsign hwhole hfraction hexponent =>
    obtain ⟨b, digits, hb, hdigits⟩ := hwhole.exists_cons
    have hdigit := hdigits b (by simp)
    rcases hsign with rfl | rfl
    · refine ⟨⟨b, _, by rw [hb]; rfl, isBlank_of_isDigit hdigit, ne_of_isDigit hdigit rfl⟩,
        fun stack rest hrest => ?_⟩
      obtain ⟨mode, hmode, hscan⟩ := scan_whole (.inl rfl) hwhole stack
      rw [List.nil_append, List.append_assoc, List.append_assoc, hscan]
      exact scan_fraction hmode hfraction hexponent stack hrest
    · refine ⟨⟨0x2d, _, rfl, rfl, by decide⟩, fun stack rest hrest => ?_⟩
      obtain ⟨mode, hmode, hscan⟩ := scan_whole (.inr rfl) hwhole stack
      rw [List.cons_append, List.nil_append, List.cons_append, scan_cons rfl, List.append_assoc,
        List.append_assoc, hscan]
      exact scan_fraction hmode hfraction hexponent stack hrest

theorem IsInside.isValue {s : Bytes} (h : IsInside s) : IsValue (quoted s) := by
  refine ⟨⟨_, _, rfl, rfl, by decide⟩, fun stack rest _ => ?_⟩
  rw [quoted, List.cons_append, List.append_assoc]
  exact h.scan_quote stack false rest

structure Container where
  frame : Frame
  opening : UInt8
  closing : UInt8
  first : Mode
  next : Mode

namespace Container

def array : Container := ⟨.array, 0x5b, 0x5d, .valueOrEnd, .value⟩

def object : Container := ⟨.object, 0x7b, 0x7d, .keyOrEnd, .key⟩

structure IsScanned (c : Container) : Prop where
  starts : isBlank c.opening = false ∧ c.opening ≠ 0x5d
  closes : isDigit c.closing = false ∧ c.closing ≠ 0x2e ∧ c.closing ≠ 0x65 ∧ c.closing ≠ 0x45
  opens : ∀ stack, step stack .value c.opening = some (c.frame :: stack, c.first)
  empty : ∀ stack, step (c.frame :: stack) c.first c.closing = some (stack, .after)
  comma : ∀ stack, step (c.frame :: stack) .after 0x2c = some (c.frame :: stack, c.next)
  close : ∀ stack, step (c.frame :: stack) .after c.closing = some (stack, .after)
  blankFirst : ∀ stack b, isBlank b = true → step stack c.first b = some (stack, c.first)
  blankNext : ∀ stack b, isBlank b = true → step stack c.next b = some (stack, c.next)
  blankAfter : ∀ stack b, isBlank b = true →
    step (c.frame :: stack) .after b = some (c.frame :: stack, .after)

theorem isScanned_array : IsScanned array where
  starts := by decide
  closes := by decide
  opens _ := rfl
  empty _ := rfl
  comma _ := rfl
  close _ := rfl
  blankFirst stack b h := by simp only [array, step, h, if_true]
  blankNext stack b h := by simp only [array, step, begin, h, if_true]
  blankAfter stack b h := by simp only [array, step, follow, h, if_true]

theorem isScanned_object : IsScanned object where
  starts := by decide
  closes := by decide
  opens _ := rfl
  empty _ := rfl
  comma _ := rfl
  close _ := rfl
  blankFirst stack b h := by simp only [object, step, h, if_true]
  blankNext stack b h := by simp only [object, step, h, if_true]
  blankAfter stack b h := by simp only [object, step, follow, h, if_true]

/-- An item of a container: it is scanned alike as the first one and behind a comma. -/
structure IsItem (c : Container) (item : Bytes) : Prop where
  first : ∀ stack rest, scan stack c.first (item ++ rest) = scan stack c.next (item ++ rest)
  scan : ∀ (stack : List Frame) {rest : Bytes}, Ends rest →
    Json.scan (c.frame :: stack) c.next (item ++ rest) = Json.scan (c.frame :: stack) .after rest

theorem IsItem.spaced {c : Container} (hc : c.IsScanned) {before item after : Bytes}
    (hbefore : AllBlank before) (h : c.IsItem item) (hafter : AllBlank after) :
    c.IsItem (before ++ (item ++ after)) where
  first stack rest := by
    rw [List.append_assoc, List.append_assoc,
      scan_stay fun b hb => hc.blankFirst stack b (hbefore b hb),
      scan_stay fun b hb => hc.blankNext stack b (hbefore b hb)]
    exact h.first stack _
  scan stack rest hrest := by
    rw [List.append_assoc, List.append_assoc,
      scan_stay fun b hb => hc.blankNext _ b (hbefore b hb),
      h.scan stack (ends_blanks_append hafter hrest)]
    exact scan_stay (fun b hb => hc.blankAfter stack b (hafter b hb)) rest

end Container

theorem ends_laterItems_append (items : List Bytes) {rest : Bytes} (hrest : Ends rest) :
    Ends (laterItems items ++ rest) := by
  cases items with
  | nil => exact hrest
  | cons item items => exact ends_cons _ (by decide)

theorem scan_laterItems {c : Container} (hc : c.IsScanned) {items : List Bytes}
    (h : ∀ item ∈ items, c.IsItem item) (stack : List Frame) {rest : Bytes} (hrest : Ends rest) :
    scan (c.frame :: stack) .after (laterItems items ++ rest) =
      scan (c.frame :: stack) .after rest := by
  induction items with
  | nil => rfl
  | cons item items ih =>
    calc scan (c.frame :: stack) .after (laterItems (item :: items) ++ rest)
        = scan (c.frame :: stack) .after (0x2c :: (item ++ (laterItems items ++ rest))) := by
          simp [laterItems_cons]
      _ = scan (c.frame :: stack) c.next (item ++ (laterItems items ++ rest)) :=
        scan_cons (hc.comma stack) _
      _ = scan (c.frame :: stack) .after (laterItems items ++ rest) :=
        (h item (by simp)).scan stack (ends_laterItems_append items hrest)
      _ = scan (c.frame :: stack) .after rest := ih fun item hitem => h item (by simp [hitem])

theorem isValue_enclose {c : Container} (hc : c.IsScanned) {blanks : Bytes}
    (hblanks : AllBlank blanks) {items : List Bytes} (h : ∀ item ∈ items, c.IsItem item) :
    IsValue (enclose c.opening c.closing blanks items) := by
  cases items with
  | nil =>
    refine ⟨⟨_, _, rfl, hc.starts⟩, fun stack rest _ => ?_⟩
    rw [enclose, List.cons_append, scan_cons (hc.opens stack), List.append_assoc,
      scan_stay fun b hb => hc.blankFirst _ b (hblanks b hb)]
    exact scan_cons (hc.empty stack) rest
  | cons item items =>
    refine ⟨⟨_, _, rfl, hc.starts⟩, fun stack rest hrest => ?_⟩
    have hend : Ends (blanks ++ c.closing :: rest) :=
      ends_blanks_append hblanks (ends_cons rest hc.closes)
    have hitem := h item (by simp)
    have hitems : ∀ item ∈ items, c.IsItem item := fun item hi => h item (by simp [hi])
    simp only [enclose, List.cons_append, List.append_assoc, List.nil_append]
    rw [scan_cons (hc.opens stack), hitem.first,
      hitem.scan stack (ends_laterItems_append items hend), scan_laterItems hc hitems stack hend,
      scan_stay fun b hb => hc.blankAfter stack b (hblanks b hb), scan_cons (hc.close stack)]

theorem IsValue.isItem {v : Bytes} (hv : IsValue v) : Container.array.IsItem v where
  first stack rest := by
    obtain ⟨b, tail, rfl, hblank, hclose⟩ := hv.starts
    have hne : Char.ofUInt8 b ≠ ']' := ofUInt8_ne (b := 0x5d) hclose
    have hstep : step stack .valueOrEnd b = step stack .value b := by
      simp only [step, hblank, Bool.false_eq_true, if_false, if_neg hne]
    simp only [List.cons_append, Json.scan, Container.array, hstep]
    rfl
  scan stack _ hrest := hv.scan _ hrest

theorem Element.isItem {e : Element} (hspaced : e.IsSpaced) (hv : IsValue e.value) :
    Container.array.IsItem e.text :=
  hv.isItem.spaced Container.isScanned_array hspaced.1 hspaced.2

theorem Member.isItem {m : Member} (hspaced : m.IsSpaced) (hkey : IsInside m.key)
    (hv : IsValue m.value) : Container.object.IsItem m.text := by
  obtain ⟨hbeforeKey, hafterKey, hbefore, hafter⟩ := hspaced
  have hitem : Container.object.IsItem
      (quoted m.key ++ (m.afterKey ++ 0x3a :: (m.before ++ m.value))) :=
    { first stack rest := rfl
      scan stack rest hrest := by
        have hquote (rest : Bytes) : scan (.object :: stack) .key (0x22 :: rest) =
            scan (.object :: stack) (.text true) rest := scan_cons rfl rest
        have hcolon (rest : Bytes) : scan (.object :: stack) (Mode.closed true) (0x3a :: rest) =
            scan (.object :: stack) .value rest := scan_cons rfl rest
        have hblanks : ∀ b ∈ m.afterKey,
            step (.object :: stack) (Mode.closed true) b =
              some (.object :: stack, Mode.closed true) := fun b hb => by
          simp only [Mode.closed, step, hafterKey b hb, if_true]
        have hblanks' : ∀ b ∈ m.before,
            step (.object :: stack) .value b = some (.object :: stack, .value) := fun b hb => by
          simp only [step, begin, hbefore b hb, if_true]
        simp only [quoted, List.cons_append, List.append_assoc, List.nil_append]
        show scan (.object :: stack) .key (0x22 :: _) = scan (.object :: stack) .after rest
        rw [hquote, hkey.scan_quote, scan_stay hblanks, hcolon, scan_stay hblanks']
        exact hv.scan _ hrest }
  have htext := hitem.spaced Container.isScanned_object hbeforeKey hafter
  rw [Member.text, Element.text]
  simpa only [List.append_assoc, List.cons_append] using htext

theorem IsJson.isValue {v : Bytes} (h : IsJson v) : IsValue v := by
  induction h with
  | null => exact ⟨⟨_, _, rfl, rfl, by decide⟩, fun _ _ _ => rfl⟩
  | true => exact ⟨⟨_, _, rfl, rfl, by decide⟩, fun _ _ _ => rfl⟩
  | false => exact ⟨⟨_, _, rfl, rfl, by decide⟩, fun _ _ _ => rfl⟩
  | number hn => exact hn.isValue
  | string hs => exact hs.isValue
  | array hblanks hspaced _ ih =>
    apply isValue_enclose Container.isScanned_array hblanks
    intro item hitem
    obtain ⟨e, he, rfl⟩ := List.mem_map.1 hitem
    exact e.isItem (hspaced e he) (ih e he)
  | object hblanks hspaced hkey _ ih =>
    apply isValue_enclose Container.isScanned_object hblanks
    intro item hitem
    obtain ⟨m, hm, rfl⟩ := List.mem_map.1 hitem
    exact m.isItem (hspaced m hm) (hkey m hm) (ih m hm)

end DurableCalc.Json
