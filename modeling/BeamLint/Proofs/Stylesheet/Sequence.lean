import BeamLint.Proofs.Stylesheet.Comments
import BeamLint.Proofs.Stylesheet.Roundtrip

/-!
# One stylesheet after the other

A scan may be stopped anywhere: what it finds in the rest of the text depends on the text before
only through the state at the place (`ScanState.segments_append_text`). Of this state, where the
current segment starts and what has been seen of it matter only to the first segment that is ended
(`ScanState.exists_ofSegments_withSegment`).

So the places that are found move with the text. And where a stylesheet is complete (`IsComplete`),
with nothing open at its end but blanks, the scan of whatever follows starts afresh
(`scanStylesheet_append`).
-/

namespace BeamLint

open Text

/-! ### Moving what is found -/

/-- The same, `n` places later. -/
def Segment.shift (n : Nat) (g : Segment) : Segment := { g with offset := n + g.offset }

/-- The same, `n` places later. -/
def TokenSite.shift (n : Nat) (t : TokenSite) : TokenSite := { t with offset := n + t.offset }

/-- The same, `n` places later. -/
def PropertySite.shift (n : Nat) (p : PropertySite) : PropertySite :=
  { p with offset := n + p.offset, valueOffset := n + p.valueOffset }

/-- The same, `n` places later. -/
def StylesheetScan.shift (n : Nat) (s : StylesheetScan) : StylesheetScan where
  classTokens := s.classTokens.map (TokenSite.shift n)
  declarations := s.declarations.map (PropertySite.shift n)
  usages := s.usages.map (PropertySite.shift n)

namespace Segment

/-- Up to blanks at the beginning, the one segment is the other one, `n` places later. -/
structure Moved (n : Nat) (g g' : Segment) : Prop where
  kind_eq : g'.kind = g.kind
  trimLeft_eq : trimLeft g'.text = trimLeft g.text
  place_eq : g'.place = n + g.place

theorem moved_shift (n : Nat) (g : Segment) : Moved n g (g.shift n) :=
  ⟨rfl, rfl, Nat.add_assoc _ _ _⟩

theorem moved_blanks {blanks : List Char} (hb : isAllBlank blanks) (kind : SegmentKind) (i : Nat)
    (text : List Char) : Moved 0 ⟨kind, i + blanks.length, text⟩ ⟨kind, i, blanks ++ text⟩ where
  kind_eq := rfl
  trimLeft_eq := trimLeft_append hb text
  place_eq := by rw [place_blanks_append hb, Nat.zero_add]

/-- What is left of the segment from the end, counted from its first character that is not blank. -/
theorem offset_add_sub {g : Segment} {n : Nat} (h : n ≤ (trimLeft g.text).length) :
    g.offset + (g.text.length - n) = g.place + ((trimLeft g.text).length - n) := by
  have htext := congrArg List.length (List.takeWhile_append_dropWhile (p := isBlank) (l := g.text))
  rw [List.length_append, ← trimLeft] at htext
  unfold place
  omega

namespace Moved

variable {n : Nat} {g g' : Segment}

theorem classTokens (h : Moved n g g') :
    g'.classTokens = g.classTokens.map (TokenSite.shift n) := by
  rw [classTokens_eq, classTokens_eq, h.kind_eq, h.trimLeft_eq, h.place_eq]
  split
  · simp [TokenSite.shift, Nat.add_assoc]
  · rfl

theorem property? (h : Moved n g g') {after : List Char}
    (ha : after.length ≤ (trimLeft g.text).length) (name : List Char) :
    g'.property? name after = (g.property? name after).map (PropertySite.shift n) := by
  unfold Segment.property?
  split
  · next value hvalue =>
    have hlength : value.length ≤ (trimLeft g.text).length := by
      have hle := (List.dropWhile_sublist isBlank (l := after)).length_le
      rw [← trimLeft, hvalue, List.length_cons] at hle
      omega
    have hplace : g'.offset + (g'.text.takeWhile isBlank).length =
        n + (g.offset + (g.text.takeWhile isBlank).length) := h.place_eq
    have hvalueOffset : g'.offset + (g'.text.length - value.length) =
        n + (g.offset + (g.text.length - value.length)) := by
      rw [offset_add_sub hlength, offset_add_sub (h.trimLeft_eq ▸ hlength), h.trimLeft_eq,
        h.place_eq, Nat.add_assoc]
    rw [hplace, hvalueOffset]
    rfl
  · rfl

theorem customProperty? (h : Moved n g g') :
    g'.customProperty? = g.customProperty?.map (PropertySite.shift n) := by
  unfold Segment.customProperty?
  rw [h.kind_eq, h.trimLeft_eq]
  cases g.kind with
  | prelude => rfl
  | declaration =>
    cases hname : propertyName? (trimLeft g.text) with
    | none => rfl
    | some p => exact h.property? (length_of_propertyName? hname) p.1

theorem ordinaryProperty? (h : Moved n g g') :
    g'.ordinaryProperty? = g.ordinaryProperty?.map (PropertySite.shift n) := by
  unfold Segment.ordinaryProperty?
  rw [h.kind_eq, h.trimLeft_eq]
  dsimp only
  split
  · exact h.property? (List.dropWhile_sublist isPropertyChar).length_le _
  · rfl

theorem usage? (h : Moved n g g') : g'.usage? = g.usage?.map (PropertySite.shift n) := by
  unfold Segment.usage?
  rw [h.customProperty?, h.ordinaryProperty?, Option.isSome_map]
  split
  · rfl
  · rw [Option.filter_map, Function.comp_def]
    rfl

/-- A segment that is moved gives the same, so many places later. -/
theorem ofSegments (h : Moved n g g') :
    StylesheetScan.ofSegments [g'] = (StylesheetScan.ofSegments [g]).shift n := by
  simp only [StylesheetScan.ofSegments, StylesheetScan.shift, List.flatMap_singleton,
    h.classTokens, StylesheetScan.mk.injEq, true_and]
  constructor
  · cases hc : g.customProperty? <;> simp [h.customProperty?, hc]
  · cases hu : g.usage? <;> simp [h.usage?, hu]

end Moved

end Segment

namespace StylesheetScan

theorem ofSegments_append (a b : List Segment) :
    ofSegments (a ++ b) = ofSegments a ++ ofSegments b := by
  simp [ofSegments, append_def]

theorem append_empty (s : StylesheetScan) : s ++ ({} : StylesheetScan) = s := by
  simp [append_def]

theorem shift_append (n : Nat) (a b : StylesheetScan) :
    (a ++ b).shift n = a.shift n ++ b.shift n := by
  simp [shift, append_def]

theorem shift_zero (s : StylesheetScan) : s.shift 0 = s := by
  have htoken : TokenSite.shift 0 = id := by
    funext t
    simp [TokenSite.shift]
  have hproperty : PropertySite.shift 0 = id := by
    funext p
    simp [PropertySite.shift]
  simp [shift, htoken, hproperty]

theorem ofSegments_map_shift (n : Nat) (gs : List Segment) :
    ofSegments (gs.map (Segment.shift n)) = (ofSegments gs).shift n := by
  induction gs with
  | nil => rfl
  | cons g gs ih =>
    rw [List.map_cons, ofSegments_cons, ofSegments_cons g, shift_append, ih,
      (g.moved_shift n).ofSegments]

end StylesheetScan

/-! ### States -/

namespace ScanState

/-- The state after the text. -/
def after (s : ScanState) (text : List Char) : ScanState := text.foldl (fun s c => (s.step c).2) s

/-- The segments that are ended in the text. -/
def ended (s : ScanState) : List Char → List Segment
  | [] => []
  | c :: rest => (s.step c).1 ++ ended (s.step c).2 rest

/-- The state with another current segment. -/
def withSegment (s : ScanState) (start : Nat) (seen : List Char) : ScanState :=
  { s with start := start, seen := seen }

variable (s : ScanState) (c : Char) (a b text : List Char)

@[simp] theorem after_cons : s.after (c :: text) = (s.step c).2.after text := rfl

theorem after_append : s.after (a ++ b) = (s.after a).after b := List.foldl_append

/-- The scan of a text goes on with the state at its end. -/
theorem segments_append_text : s.segments (a ++ b) = s.ended a ++ (s.after a).segments b := by
  induction a generalizing s with
  | nil => rfl
  | cons c a ih => rw [List.cons_append, segments, ih, ended, List.append_assoc, after_cons]

theorem segments_eq : s.segments a = s.ended a ++ (s.after a).finish := by
  have h := s.segments_append_text a []
  rwa [List.append_nil] at h

/-- What the character does to the current segment: it belongs to it, or it ends it, and then there
may be a segment of some kind. -/
def cut? (s : ScanState) (c : Char) : Option (Option SegmentKind) :=
  if s.quote.isSome || isQuote c || s.parens > 0 then none
  else if c == '{' then some (some .prelude)
  else if c == ';' || c == '}' then some (if s.depth > 0 then some .declaration else none)
  else none

variable {s c}

/-- Whether a character ends the current segment does not depend on the segment. -/
theorem step_of_cut?_eq_none (h : s.cut? c = none) (start : Nat) (seen : List Char) :
    (s.withSegment start seen).step c = ([], (s.step c).2.withSegment start (c :: seen)) := by
  obtain ⟨quote, before, parens, depth, start', seen'⟩ := s
  unfold cut? isQuote at h
  unfold step withSegment
  dsimp only at h ⊢
  split_ifs
  · rfl
  · rfl
  · rfl
  · rfl
  · simp_all
  · simp_all
  · simp_all
  · rfl

theorem declaration_withSegment (start : Nat) (seen : List Char) :
    (s.withSegment start seen).declaration =
      ((if s.depth > 0 then some .declaration else none).map fun k =>
        (⟨k, start, seen.reverse⟩ : Segment)).toList := by
  by_cases hdepth : s.depth > 0
  · rw [if_pos hdepth]
    exact if_pos hdepth
  · rw [if_neg hdepth]
    exact if_neg hdepth

theorem step_of_cut?_eq_some {kind : Option SegmentKind} (h : s.cut? c = some kind) (start : Nat)
    (seen : List Char) :
    (s.withSegment start seen).step c =
      ((kind.map fun k => ⟨k, start, seen.reverse⟩).toList,
        (s.step c).2.withSegment (start + seen.length + 1) []) := by
  have hdeclaration := s.declaration_withSegment start seen
  obtain ⟨quote, before, parens, depth, start', seen'⟩ := s
  unfold cut? isQuote at h
  unfold step
  unfold withSegment at hdeclaration ⊢
  dsimp only at h hdeclaration ⊢
  split_ifs
  · simp_all
  · simp_all
  · simp_all
  · simp_all
  · obtain rfl : some SegmentKind.prelude = kind := by simp_all
    rfl
  · obtain rfl : (if depth > 0 then some SegmentKind.declaration else none) = kind := by simp_all
    rw [hdeclaration]
    rfl
  · obtain rfl : (if depth > 0 then some SegmentKind.declaration else none) = kind := by simp_all
    rw [hdeclaration]
    rfl
  · simp_all

/-- Places move with the text. -/
theorem segments_withSegment_add (n start : Nat) (seen text : List Char) :
    (s.withSegment (n + start) seen).segments text =
      ((s.withSegment start seen).segments text).map (Segment.shift n) := by
  induction text generalizing s start seen with
  | nil =>
    cases seen with
    | nil => rfl
    | cons d seen =>
      show (s.withSegment _ _).declaration = (s.withSegment _ _).declaration.map _
      rw [declaration_withSegment, declaration_withSegment]
      split <;> rfl
  | cons c text ih =>
    cases hcut : s.cut? c with
    | none => simp only [segments, step_of_cut?_eq_none hcut, List.nil_append, ih]
    | some kind =>
      have hplace : n + start + seen.length + 1 = n + (start + seen.length + 1) := by omega
      simp only [segments, step_of_cut?_eq_some hcut, hplace, ih, List.map_append]
      cases kind <;> rfl

/-- Of the current segment only the first segment that is ended knows more than where the rest of
the text stands. -/
theorem exists_ofSegments_withSegment (s : ScanState) (text : List Char) :
    ∃ (kind : Option SegmentKind) (ahead : List Char) (later : Nat → StylesheetScan),
      ∀ start seen, StylesheetScan.ofSegments ((s.withSegment start seen).segments text) =
        StylesheetScan.ofSegments (kind.map fun k => ⟨k, start, seen.reverse ++ ahead⟩).toList ++
          later (start + seen.length) := by
  induction text generalizing s with
  | nil =>
    refine ⟨if s.depth > 0 then some .declaration else none, [], fun _ => {}, fun start seen => ?_⟩
    have hempty : StylesheetScan.ofSegments [⟨.declaration, start, []⟩] = {} :=
      (⟨[], rfl⟩ : Blanks).ofSegments_text start
    cases seen with
    | nil =>
      show StylesheetScan.ofSegments [] = _
      split
      · rw [Option.map_some, Option.toList_some, List.reverse_nil, List.nil_append, hempty]
        rfl
      · rfl
    | cons d seen =>
      show StylesheetScan.ofSegments (s.withSegment _ _).declaration = _
      rw [declaration_withSegment, List.append_nil, StylesheetScan.append_empty]
  | cons c text ih =>
    cases hcut : s.cut? c with
    | none =>
      obtain ⟨kind, ahead, later, h⟩ := ih (s.step c).2
      refine ⟨kind, c :: ahead, fun n => later (n + 1), fun start seen => ?_⟩
      rw [segments, step_of_cut?_eq_none hcut, List.nil_append, h, List.reverse_cons,
        List.append_assoc, List.length_cons, ← Nat.add_assoc]
      rfl
    | some kind =>
      refine ⟨kind, [], fun n => StylesheetScan.ofSegments
        (((s.step c).2.withSegment (n + 1) []).segments text), fun start seen => ?_⟩
      rw [segments, step_of_cut?_eq_some hcut, StylesheetScan.ofSegments_append, List.append_nil]

/-- Blanks at the beginning of the current segment have no say. -/
theorem ofSegments_withSegment_blanks (s : ScanState) {blanks : List Char} (hb : isAllBlank blanks)
    (start : Nat) (text : List Char) :
    StylesheetScan.ofSegments ((s.withSegment start blanks).segments text) =
      StylesheetScan.ofSegments ((s.withSegment (start + blanks.length) []).segments text) := by
  obtain ⟨kind, ahead, later, h⟩ := exists_ofSegments_withSegment s text
  rw [h, h]
  congr 1
  cases kind with
  | none => rfl
  | some kind =>
    have hmoved := Segment.moved_blanks (isAllBlank_reverse hb) kind start ahead
    have hfound := hmoved.ofSegments
    rw [StylesheetScan.shift_zero, List.length_reverse] at hfound
    exact hfound

/-! ### The state at the end -/

theorem after_withSegment_add (n start : Nat) (seen text : List Char) :
    (s.withSegment (n + start) seen).after text =
      ((s.withSegment start seen).after text).withSegment
        (n + ((s.withSegment start seen).after text).start)
        ((s.withSegment start seen).after text).seen := by
  induction text generalizing s start seen with
  | nil => rfl
  | cons c text ih =>
    cases hcut : s.cut? c with
    | none => simp only [after_cons, step_of_cut?_eq_none hcut, ih]
    | some kind =>
      have hplace : n + start + seen.length + 1 = n + (start + seen.length + 1) := by omega
      simp only [after_cons, step_of_cut?_eq_some hcut, hplace, ih]

/-- The current segment ends where the text ends. -/
theorem start_after_add_length (start : Nat) (seen text : List Char) :
    ((s.withSegment start seen).after text).start +
        ((s.withSegment start seen).after text).seen.length =
      start + seen.length + text.length := by
  induction text generalizing s start seen with
  | nil => rfl
  | cons c text ih =>
    cases hcut : s.cut? c with
    | none =>
      simp only [after_cons, step_of_cut?_eq_none hcut, ih, List.length_cons]
      omega
    | some kind =>
      simp only [after_cons, step_of_cut?_eq_some hcut, ih, List.length_cons, List.length_nil]
      omega

/-- Outside quotes and braces, with nothing but blanks seen, the state is as good as new. -/
theorem ofSegments_of_blanks (hquote : s.quote = none) (hparens : s.parens = 0)
    (hdepth : s.depth = 0) (hseen : isAllBlank s.seen) (text : List Char) :
    StylesheetScan.ofSegments (s.segments text) =
      StylesheetScan.ofSegments (BeamLint.segments (s.start + s.seen.length) false text) := by
  rw [segments_eq_unquoted hquote, hparens, hdepth]
  exact ofSegments_withSegment_blanks (unquoted 0 0 0 []) hseen s.start text

theorem finish_of_depth_eq_zero (hdepth : s.depth = 0) : s.finish = [] := by
  have hno : ¬ s.depth > 0 := by omega
  rw [finish, declaration, if_neg hno, ite_self]

theorem cut?_of_not_isCut (s : ScanState) (h : isCut c = false) : s.cut? c = none := by
  simp only [isCut, Bool.or_eq_false_iff] at h
  simp [cut?, h]

theorem depth_step_of_not_isCut (s : ScanState) (h : isCut c = false) :
    (s.step c).2.depth = s.depth := by
  simp only [isCut, Bool.or_eq_false_iff] at h
  unfold step
  split_ifs <;> simp_all [extend]

/-- A text that nothing cuts is in the current segment. -/
theorem after_of_not_isCut (s : ScanState) {text : List Char} (h : ∀ c ∈ text, isCut c = false) :
    s.ended text = [] ∧ (s.after text).depth = s.depth ∧ (s.after text).start = s.start ∧
      (s.after text).seen = text.reverse ++ s.seen := by
  induction text generalizing s with
  | nil => exact ⟨rfl, rfl, rfl, rfl⟩
  | cons c text ih =>
    obtain ⟨hc, htext⟩ := List.forall_mem_cons.1 h
    have hstep : s.step c = ([], (s.step c).2.withSegment s.start (c :: s.seen)) :=
      step_of_cut?_eq_none (s.cut?_of_not_isCut hc) s.start s.seen
    obtain ⟨hended, hdepth, hstart, hseen⟩ := ih (s.step c).2 htext
    rw [after_cons, ended, hended, hdepth, hstart, hseen, hstep]
    refine ⟨rfl, ?_, rfl, ?_⟩
    · exact s.depth_step_of_not_isCut hc
    · simp [withSegment]

end ScanState

/-! ### Complete stylesheets -/

/-- The state at the end of a stylesheet. -/
def endOf (text : List Char) : ScanState := ({} : ScanState).after (stylesheetComment.blank text)

/-- At the end of the stylesheet nothing is open, and what follows the last segment is blank. -/
structure IsComplete (text : List Char) : Prop where
  closesComments : ClosesComments text
  quote_eq : (endOf text).quote = none
  parens_eq : (endOf text).parens = 0
  depth_eq : (endOf text).depth = 0
  blank_seen : isAllBlank (endOf text).seen

theorem isComplete_iff {text : List Char} :
    IsComplete text ↔ ClosesComments text ∧ (endOf text).quote = none ∧ (endOf text).parens = 0 ∧
      (endOf text).depth = 0 ∧ isAllBlank (endOf text).seen :=
  ⟨fun ⟨h₁, h₂, h₃, h₄, h₅⟩ => ⟨h₁, h₂, h₃, h₄, h₅⟩,
    fun ⟨h₁, h₂, h₃, h₄, h₅⟩ => ⟨h₁, h₂, h₃, h₄, h₅⟩⟩

instance (text : List Char) : Decidable (IsComplete text) := decidable_of_iff _ isComplete_iff.symm

/-- The current segment at the end of a stylesheet runs to the end. -/
theorem start_endOf_add_length (text : List Char) :
    (endOf text).start + (endOf text).seen.length = text.length := by
  have h : (endOf text).start + (endOf text).seen.length =
      0 + [].length + (stylesheetComment.blank text).length :=
    ({} : ScanState).start_after_add_length 0 [] _
  simpa using h

/-- No comment begins with the last character of a complete stylesheet. -/
theorem IsComplete.getLast?_ne {text : List Char} (h : IsComplete text) :
    (stylesheetComment.blank text).getLast? ≠ some '/' := by
  intro hlast
  obtain ⟨front, hfront⟩ := List.getLast?_eq_some_iff.1 hlast
  have hseen := h.blank_seen
  have hslash : ∀ c ∈ ['/'], isCut c = false := by simp [isCut]
  rw [endOf, hfront, ScanState.after_append, (ScanState.after_of_not_isCut _ hslash).2.2.2] at hseen
  simp [isAllBlank, isBlank] at hseen

/-- Behind a complete stylesheet the scan starts afresh, whatever follows. -/
theorem scanStylesheet_append {a : List Char} (h : IsComplete a) (b : List Char) (base : Nat) :
    scanStylesheet base false (a ++ b) =
      scanStylesheet base false a ++ scanStylesheet (base + a.length) false b := by
  have hafter : (({ start := base } : ScanState).after (stylesheetComment.blank a)) =
      (endOf a).withSegment (base + (endOf a).start) (endOf a).seen :=
    ({} : ScanState).after_withSegment_add base 0 [] (stylesheetComment.blank a)
  have hplace : base + (endOf a).start + (endOf a).seen.length = base + a.length := by
    rw [Nat.add_assoc, start_endOf_add_length]
  have hfirst : segments base false (stylesheetComment.blank a) =
      ({ start := base } : ScanState).ended (stylesheetComment.blank a) := by
    show ({ start := base } : ScanState).segments _ = _
    rw [ScanState.segments_eq, hafter, ScanState.finish_of_depth_eq_zero, List.append_nil]
    exact h.depth_eq
  have hsecond := ScanState.ofSegments_of_blanks
    (s := (endOf a).withSegment (base + (endOf a).start) (endOf a).seen)
    h.quote_eq h.parens_eq h.depth_eq h.blank_seen (stylesheetComment.blank b)
  rw [scanStylesheet, scanStylesheet, scanStylesheet, hfirst, ← hplace,
    blank_append h.closesComments (Or.inl h.getLast?_ne)]
  show StylesheetScan.ofSegments (({ start := base } : ScanState).segments _) = _
  rw [ScanState.segments_append_text, hafter, StylesheetScan.ofSegments_append, hsecond]
  rfl

/-- What is found in a stylesheet moves with it. -/
theorem scanStylesheet_shift (base : Nat) (inline : Bool) (text : List Char) :
    scanStylesheet base inline text = (scanStylesheet 0 inline text).shift base := by
  have h := ScanState.segments_withSegment_add
    (s := { depth := if inline then 1 else 0 }) base 0 [] (stylesheetComment.blank text)
  rw [scanStylesheet, scanStylesheet, ← StylesheetScan.ofSegments_map_shift]
  exact congrArg StylesheetScan.ofSegments h

/-- **Scanning is compositional**: of a complete stylesheet and any text behind it, each is scanned
for itself; and what is found moves with the text. -/
theorem scanStylesheet_compositional :
    (∀ a : List Char, IsComplete a → ∀ (b : List Char) (base : Nat),
      scanStylesheet base false (a ++ b) =
        scanStylesheet base false a ++ scanStylesheet (base + a.length) false b) ∧
    ∀ (base : Nat) (inline : Bool) (text : List Char),
      scanStylesheet base inline text = (scanStylesheet 0 inline text).shift base :=
  ⟨fun _ h => scanStylesheet_append h, scanStylesheet_shift⟩

/-- A text with a brace too many in front and the closing marks missing at its end, behind a rule in
a rule. -/
theorem scanStylesheet_compositional_brokenText :
    IsComplete "/*\x7b*/@m\x7b.a\x7b--x:(\";\")\x7d\x7d \n".toList ∧
      scanStylesheet 5 false
          ("/*\x7b*/@m\x7b.a\x7b--x:(\";\")\x7d\x7d \n".toList ++ "\x7d).b\x7btop:var(--x".toList) =
        scanStylesheet 5 false "/*\x7b*/@m\x7b.a\x7b--x:(\";\")\x7d\x7d \n".toList ++
          scanStylesheet (5 + 24) false "\x7d).b\x7btop:var(--x".toList ∧
      scanStylesheet (5 + 24) false "\x7d).b\x7btop:var(--x".toList =
        { classTokens := [⟨"b", 31⟩], usages := [⟨"top", "var(--x", 34, 38⟩] } := by
  have hcomplete : IsComplete "/*\x7b*/@m\x7b.a\x7b--x:(\";\")\x7d\x7d \n".toList := by
    decide +kernel
  exact ⟨hcomplete, scanStylesheet_compositional.1 _ hcomplete _ 5, by decide +kernel⟩

end BeamLint
