import ScriptVeil.Proofs.Script.Parser.Goes

namespace ScriptVeil.Script

def State.nextScan (c : Context) (s : State) : Scan :=
  match s.openRegex with
  | some r => r.reading.scan s.surroundings.newline s.cursor.offset
  | none =>
    if s.surroundings.inTemplate then scanTemplate s.surroundings s.cursor
    else scan c.scanMode s.atStart s.cursor

def State.behind (s : State) (r : Scan) : State :=
  { s with
    cursor := r.after, atStart := false,
    surroundings := (r.lexeme.map s.surroundings.after).getD s.surroundings,
    openRegex := s.openRegex.filter OpenRegex.isFaulty, notes := r.notes.reverse ++ s.notes }

/-- What a scan in a state has to give: the next token of the row or, at the end, none. -/
structure Scan.Continues (t : Text) (s : State) (r : Scan) : Prop where
  after_eq : ∀ x ∈ s.openRegex, r.after = x.after
  not_plain : s.openRegex ≠ none → ∀ l ∈ r.lexeme, l.token.isPlain = false
  ends_word : s.openRegex = none → s.atStart = false → ∀ l ∈ r.lexeme, l.newline = true
    → StartsNoWord s.cursor.rest
  of_some : ∀ l ∈ r.lexeme, ∀ hi, s.cursor.Resumes t hi → l.Behind t r.notes hi
    ∧ r.after.Resumes t l.span.stop
  of_none : r.lexeme = none → r.after.rest = []
    ∧ ∀ hi, s.cursor.Resumes t hi → r.after.Resumes t hi

variable {t : Text} {s : State} {c : Context} {r : Scan}

theorem isPlain_eq_false_of_regexAt (slash : Nat) (c : Cursor) :
    (regexAt slash c).Gives fun token => token.isPlain = false := by
  rw [regexAt]
  split
  · exact Reading.gives_failed
  · exact .ite (Reading.gives_andThen fun _ _ => Reading.gives_done rfl) (Reading.gives_done rfl)

theorem isPlain_eq_false_of_templateTextAt (start : Nat) (c : Cursor) :
    (templateTextAt start c).Gives fun token => token.isPlain = false :=
  Reading.gives_andThen fun _ _ => .ite Reading.gives_failed (Reading.gives_done rfl)

theorem isPlain_eq_false_of_templateMark? {text : Text} {m : Mark}
    (h : templateMark? text = some m) :
    (Token.mark m).isPlain = false := by
  unfold templateMark? at h
  split at h
  · rw [← Option.some.inj h]
    rfl
  · rw [← Option.some.inj h]
    rfl
  · contradiction

theorem Reading.isPlain_scan {x : Reading Token} (h : x.Gives fun token => token.isPlain = false)
    {newline : Bool} {start : Nat} {l : Lexeme} (hl : l ∈ (x.scan newline start).lexeme) :
    l.token.isPlain = false := by
  cases x with
  | done token after notes =>
    rw [← Option.some.inj hl]
    exact h token after notes rfl
  | failed flaw after notes =>
    rw [← Option.some.inj hl]
    rfl

/-- A token that is read as it stands, inside a template or a regular expression, is the next one of
the row. -/
theorem Reading.behind_scan {x : Reading Token} (h : x.Gives fun token => token.isPlain = false)
    {newline : Bool} {cursor : Cursor} (hr : cursor.Reaches x.after)
    (hx : ∀ token after notes, x = .done token after notes → cursor.ReadsInside token after)
    {l : Lexeme} (hl : l ∈ (x.scan newline cursor.offset).lexeme) {hi : Nat}
    (hc : cursor.Resumes t hi) :
    l.Behind t (x.scan newline cursor.offset).notes hi
      ∧ (x.scan newline cursor.offset).after.Resumes t l.span.stop := by
  obtain ⟨b, hb, hhi, hskips⟩ := hc.exists_skips
  have hspan := Reading.span_scan hl
  have hread : (∃ flaw, l.token = .bad flaw) ∨ cursor.ReadsInside l.token x.after := by
    cases x with
    | done token after notes =>
      obtain rfl := Option.some.inj hl
      exact .inr (hx token after notes rfl)
    | failed flaw after notes =>
      obtain rfl := Option.some.inj hl
      exact .inl ⟨flaw, rfl⟩
  refine ⟨⟨b, hb, hhi, .inner cursor x.after (isPlain_scan h hl) hskips hr hspan hread⟩, ?_⟩
  rw [Reading.scan_after, hspan]
  exact .of_in ((hb.trans hskips.reaches).trans hr)

theorem Reading.lexeme_scan_ne_none (x : Reading Token) (newline : Bool) (start : Nat) :
    (x.scan newline start).lexeme ≠ none := by
  cases x <;> exact nofun

theorem continues_regex {x : OpenRegex} (h : s.Sound t) (hx : s.openRegex = some x)
    (newline : Bool) :
    (x.reading.scan newline s.cursor.offset).Continues t s where
  after_eq y hy := by
    rw [hx] at hy
    obtain rfl := Option.some.inj hy
    exact Reading.scan_after _ _ _
  not_plain _ l hl := Reading.isPlain_scan (isPlain_eq_false_of_regexAt _ _) hl
  ends_word hy := by
    rw [hx] at hy
    contradiction
  of_some l hl hi hc := by
    refine Reading.behind_scan (isPlain_eq_false_of_regexAt _ _)
      (h.cursor_in.reaches (h.after_in x hx) (h.offset_le x hx)) (fun token after notes hread => ?_)
      hl hc
    replace hread : x.reading = .done token after notes := hread
    rcases h.starts_at x hx with hstart | hfaulty
    · exact .regex x hstart notes hread
    · rw [OpenRegex.isFaulty, hread] at hfaulty
      contradiction
  of_none hn := absurd hn (Reading.lexeme_scan_ne_none _ _ _)

theorem continues_template (hx : s.openRegex = none) :
    (scanTemplate s.surroundings s.cursor).Continues t s where
  after_eq y hy := by
    rw [hx] at hy
    contradiction
  not_plain hy := absurd hx hy
  ends_word _ _ l hl hn := by
    rw [scanTemplate] at hl
    split at hl
    · contradiction
    · rw [Reading.newline_scan hl] at hn
      contradiction
  of_some l hl hi hc := by
    have hr := reaches_templateToken s.surroundings s.cursor
    rw [scanTemplate] at hl ⊢
    split at hl
    · contradiction
    · next hne =>
      rw [if_neg hne]
      refine Reading.behind_scan ?_ hr (fun token after notes hread => ?_) hl hc
      · split
        · next hm => exact Reading.gives_done (isPlain_eq_false_of_templateMark? hm)
        · exact isPlain_eq_false_of_templateTextAt _ s.cursor
      · split at hread
        · next hm =>
          cases hread
          exact .templateMark _ hm rfl rfl
        · exact .templateText _ notes hread
  of_none hn := by
    rw [scanTemplate] at hn ⊢
    split at hn
    · next he =>
      rw [if_pos he]
      exact ⟨he, fun _ hc => hc⟩
    · exact absurd hn (Reading.lexeme_scan_ne_none _ _ _)

theorem rest_ne_nil_of_scan {mode : ScanMode} {atStart : Bool} {cursor : Cursor} {l : Lexeme}
    (hl : l ∈ (scan mode atStart cursor).lexeme) : cursor.rest ≠ [] := by
  intro he
  have hgap : (gapAt atStart cursor).after.rest = [] := by
    rw [gapAt, he]
    rfl
  rw [scan, if_pos hgap] at hl
  contradiction

theorem Context.reserves_scanMode (c : Context) : c.scanMode.Reserves := by
  intro word hword
  change c.isReserved word = true
  rw [Context.isReserved, List.contains_iff_mem.2 hword]
  rfl

theorem continues_plain {mode : ScanMode} (hm : mode.Reserves) (hx : s.openRegex = none) :
    (scan mode s.atStart s.cursor).Continues t s where
  after_eq y hy := by
    rw [hx] at hy
    contradiction
  not_plain hy := absurd hx hy
  ends_word _ hs l hl hn := by
    rw [hs] at hl
    exact startsNoWord_of_newline hl hn
  of_some l hl hi hc := by
    have hf := forward_scan mode s.atStart s.cursor
    refine ⟨⟨s.cursor, hc.in_text, hc.offset_eq (rest_ne_nil_of_scan hl),
      .plain mode s.atStart hm hl (List.Subset.refl _)⟩, ?_⟩
    rw [hf.stop_eq l hl]
    exact .of_in (hc.in_text.trans hf.reaches)
  of_none hn := by
    rw [scan] at hn ⊢
    split at hn
    · next he =>
      rw [if_pos he]
      exact ⟨he, fun _ hc => hc.gapAt he⟩
    · exact absurd hn (Reading.lexeme_scan_ne_none _ _ _)

theorem continues_nextScan (h : s.Sound t) : (s.nextScan c).Continues t s := by
  rw [State.nextScan]
  cases hx : s.openRegex with
  | some x => exact continues_regex h hx _
  | none =>
    dsimp only
    split
    · exact continues_template hx
    · exact continues_plain c.reserves_scanMode hx

theorem behind_leads (s : State) (r : Scan) : s.Leads t (s.behind r) :=
  .of_taken_eq (List.subset_append_right _ _) rfl rfl

theorem State.Sound.exists_row (h : s.Sound t) (hr : r.Continues t s) :
    ∃ hi, Row t (s.behind r).notes s.last.stop (s.upcoming ++ r.lexeme.toList) hi
      ∧ r.after.Resumes t hi := by
  obtain ⟨hi, hrow, hc⟩ := h.row
  have hrow : Row t (s.behind r).notes s.last.stop s.upcoming hi :=
    hrow.mono (List.subset_append_right _ _)
  cases hl : r.lexeme with
  | none =>
    rw [Option.toList_none, List.append_nil]
    exact ⟨hi, hrow, (hr.of_none hl).2 hi hc⟩
  | some l =>
    obtain ⟨hb, ha⟩ := hr.of_some l hl hi hc
    have hnotes : r.notes ⊆ (s.behind r).notes :=
      fun d hd => List.mem_append_left _ (List.mem_reverse.2 hd)
    exact ⟨l.span.stop, hrow.append ⟨hb.mono hnotes, rfl⟩, ha⟩

theorem mem_openRegex_behind (r : Scan) {x : OpenRegex} :
    x ∈ (s.behind r).openRegex ↔ x ∈ s.openRegex ∧ x.isFaulty = true :=
  Option.mem_filter_iff

theorem Scan.Continues.offset_le (hr : r.Continues t s) :
    ∀ x ∈ (s.behind r).openRegex, (s.behind r).cursor.offset ≤ x.after.offset :=
  fun x hx => (congrArg Cursor.offset (hr.after_eq x ((mem_openRegex_behind r).1 hx).1)).le

theorem Scan.Continues.endsWord (hr : r.Continues t s) (hx : s.openRegex = none)
    (hs : s.atStart = false) {hi : Nat} (hc : s.cursor.Resumes t hi) :
    ∀ l ∈ r.lexeme, l.newline = true → EndsWord t hi := by
  intro l hl hn
  obtain ⟨b, hb, rfl, rfl | ⟨⟨atStart, hgap⟩, he⟩⟩ := hc
  · rw [EndsWord, hb.dropBytes_eq]
    exact hr.ends_word hx hs l hl hn
  · rw [EndsWord, hb.dropBytes_eq]
    exact startsNoWord_of_gap (by rw [hgap, he])

theorem State.Sound.withAhead (h : s.Sound t) (hr : r.Continues t s) (hs : s.upcoming = []) :
    ({ s.behind r with ahead := r.lexeme, second := none } : State).Sound t where
  row := by
    have hrow := h.exists_row hr
    rw [hs, List.nil_append] at hrow
    rw [State.upcoming, Option.toList_none, List.append_nil]
    exact hrow
  after_in x hx := h.after_in x ((mem_openRegex_behind r).1 hx).1
  offset_le := hr.offset_le
  starts_at x hx := .inr ((mem_openRegex_behind r).1 hx).2
  at_start := nofun
  not_plain hx l hl := by
    rw [State.upcoming, Option.toList_none, List.append_nil] at hl
    refine hr.not_plain (fun hn => hx ?_) l (Option.mem_toList.1 hl)
    change s.openRegex.filter OpenRegex.isFaulty = none
    rw [hn]
    rfl
  no_slash := nofun
  ends_word := nofun

theorem State.Sound.withSecond {l : Lexeme} (h : s.Sound t) (hr : r.Continues t s)
    (ha : s.ahead = some l) (hs : s.second = none) (hp : l.token.isPlain = true)
    (hl : l.token.isSlash = false) :
    ({ s.behind r with second := r.lexeme } : State).Sound t := by
  have hu : s.upcoming = [l] := by rw [State.upcoming, ha, hs]; rfl
  have hx : s.openRegex = none := by
    by_contra hx
    have hnot := h.not_plain hx l (by rw [hu]; exact List.mem_singleton_self l)
    rw [hp] at hnot
    contradiction
  have hstart : s.atStart = false := by
    rw [← Bool.not_eq_true]
    intro hs
    have hempty := h.at_start hs
    rw [hu] at hempty
    contradiction
  obtain ⟨hi, hrow, hc⟩ := h.row
  rw [hu] at hrow
  obtain rfl : l.span.stop = hi := hrow.2
  have hnot : ∀ x, x ∉ (s.behind r).openRegex := by
    intro x hmem
    rw [mem_openRegex_behind, hx] at hmem
    exact Option.not_mem_none x hmem.1
  refine ⟨?_, fun x hx => absurd hx (hnot x), hr.offset_le, fun x hx => absurd hx (hnot x), nofun,
    fun hx => absurd (Option.eq_none_iff_forall_not_mem.2 hnot) hx, ?_, fun m hm hn => ?_⟩
  · have hrow := h.exists_row hr
    rw [State.upcoming, hs, Option.toList_none, List.append_nil] at hrow
    exact hrow
  · rintro m - l' hl'
    have hl' : s.ahead = some l' := hl'
    rw [ha] at hl'
    exact Option.some.inj hl' ▸ hl
  · rw [State.firstStop]
    change EndsWord t (s.ahead.elim s.last Lexeme.span).stop
    rw [ha]
    exact hr.endsWord hx hstart hc m hm hn

theorem State.Sound.behind_ahead {l : Lexeme} (h : s.Sound t) (ha : s.ahead = some l) :
    l.Behind t s.notes s.last.stop := by
  obtain ⟨hi, hrow, -⟩ := h.row
  rw [State.upcoming, ha] at hrow
  exact hrow.1

theorem State.Sound.shifted {l : Lexeme} (h : s.Sound t) (ha : s.ahead = none)
    (hs : s.second = some l) : ({ s with ahead := some l, second := none } : State).Sound t := by
  have hu : s.upcoming = ({ s with ahead := some l, second := none } : State).upcoming := by
    rw [State.upcoming, State.upcoming, ha, hs]
    rfl
  exact ⟨hu ▸ h.row, h.after_in, h.offset_le, h.starts_at, hu ▸ h.at_start, hu ▸ h.not_plain, nofun,
    nofun⟩

def State.taking (s : State) (l : Lexeme) : State :=
  { s with ahead := none, last := l.span, taken := l :: s.taken }

theorem State.Sound.taken {l : Lexeme} (h : s.Sound t) (ha : s.ahead = some l) :
    (s.taking l).Sound t where
  row := by
    obtain ⟨hi, hrow, hc⟩ := h.row
    rw [State.upcoming, ha] at hrow
    exact ⟨hi, hrow.2, hc⟩
  after_in := h.after_in
  offset_le := h.offset_le
  starts_at := h.starts_at
  at_start hs := by
    have hempty := h.at_start hs
    rw [State.upcoming, ha] at hempty
    contradiction
  not_plain hx m hm := h.not_plain hx m (List.mem_append_right _ hm)
  no_slash _ _ _ hl := absurd hl (Option.not_mem_none _)
  ends_word m hm hn := by
    have hend := h.ends_word m hm hn
    rw [State.firstStop, ha] at hend
    exact hend

theorem State.Sound.taken_leads {l : Lexeme} (h : s.Sound t) (ha : s.ahead = some l) :
    s.Leads t (s.taking l) :=
  ⟨List.Subset.refl _, [l], rfl, h.behind_ahead ha, rfl⟩

namespace Parser

/-- What is known after looking at the next token. It has not been taken. -/
structure Looked (t : Text) (s s' : State) (o : Option Lexeme) : Prop where
  ahead_eq : s'.ahead = o
  last_eq : s'.last = s.last
  taken_eq : s'.taken = s.taken
  eq_of_ahead : s.ahead ≠ none → s' = s
  at_end : o = none → s'.upcoming = [] ∧ s'.cursor.rest = []
  ends_word : s.ahead = none → s.openRegex = none → s.atStart = false
    → ∀ l ∈ o, l.newline = true → EndsWord t s.last.stop

theorem ahead_goes : Goes t s ahead (Looked t s) := by
  rw [ahead]
  apply Goes.bind .get
  rintro _ _ - ⟨rfl, rfl⟩
  dsimp only
  cases ha : s.ahead with
  | some l =>
    refine .pure fun _ => ⟨ha, rfl, rfl, fun _ => rfl, nofun, fun hn => ?_⟩
    rw [ha] at hn
    contradiction
  | none =>
    cases hs : s.second with
    | some l =>
      apply Goes.bind (.pure (Q := fun s' o => s = s' ∧ o = some l) fun _ => ⟨rfl, rfl⟩)
      rintro _ _ - ⟨rfl, rfl⟩
      intro c h
      refine ⟨h.shifted ha hs, .of_taken_eq (List.Subset.refl _) rfl rfl, rfl, rfl, rfl,
        fun hne => absurd ha hne, nofun, fun _ _ _ m hm hn => ?_⟩
      obtain rfl := Option.some.inj hm
      have hend := h.ends_word l hs hn
      rw [State.firstStop, ha] at hend
      exact hend
    | none =>
      have hu : s.upcoming = [] := by rw [State.upcoming, ha, hs]; rfl
      intro c h
      have hr := continues_nextScan (c := c) h
      refine ⟨h.withAhead hr hu, behind_leads s _, rfl, rfl, rfl, fun hne => absurd ha hne,
        fun hn => ⟨?_, (hr.of_none hn).1⟩, fun _ hx hstart => ?_⟩
      · change (s.nextScan c).lexeme.toList ++ [] = []
        rw [show (s.nextScan c).lexeme = none from hn]
        rfl
      · obtain ⟨hi, hrow, hc⟩ := h.row
        rw [hu] at hrow
        obtain rfl : s.last.stop = hi := hrow
        exact hr.endsWord hx hstart hc

theorem secondAhead_goes {l : Lexeme} (ha : s.ahead = some l) (hp : l.token.isPlain = true)
    (hl : l.token.isSlash = false) :
    Goes t s secondAhead fun s' _ => s'.ahead = s.ahead ∧ s'.last = s.last := by
  rw [secondAhead]
  apply Goes.bind ahead_goes
  rintro s₁ _ - h
  obtain rfl := h.eq_of_ahead (by rw [ha]; exact nofun)
  apply Goes.bind .get
  rintro _ _ - ⟨rfl, rfl⟩
  cases hs : s₁.second with
  | some m => exact .pure fun _ => ⟨rfl, rfl⟩
  | none =>
    intro c h
    exact ⟨h.withSecond (continues_nextScan h) ha hs hp hl, behind_leads s₁ _, rfl, rfl⟩

theorem take_goes :
    Goes t s take fun s' _ => ∀ l, s.ahead = some l
      → s' = s.taking l ∧ l.Behind t s.notes s.last.stop := by
  rw [take]
  apply Goes.bind ahead_goes
  rintro s₁ o - hs₁
  cases o with
  | none =>
    apply Goes.pure
    intro _ l hl
    have he := hs₁.eq_of_ahead (by rw [hl]; exact nofun)
    rw [← he, hs₁.ahead_eq] at hl
    contradiction
  | some l =>
    intro c h
    refine ⟨h.taken hs₁.ahead_eq, h.taken_leads hs₁.ahead_eq, fun l' hl' => ?_⟩
    obtain rfl := hs₁.eq_of_ahead (by rw [hl']; exact nofun)
    obtain rfl := Option.some.inj (hs₁.ahead_eq.symm.trans hl')
    exact ⟨rfl, h.behind_ahead hs₁.ahead_eq⟩

end Parser

end ScriptVeil.Script
