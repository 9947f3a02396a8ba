import ScriptVeil.Proofs.Masking.Tile

namespace ScriptVeil.Masking

/-- What a pass meets in a row of tiles: an occurrence that it replaces, or a tile that it
leaves. -/
inductive Group where
  | hit (ts : List Tile)
  | miss (x : Tile)

namespace Group

def tiles : Group → List Tile
  | hit ts => ts
  | miss x => [x]

def tile (new : Text) : Group → Tile
  | hit ts => .code (sourceOf ts) new
  | miss x => x

end Group

def takeText : Nat → List Tile → List Tile
  | 0, _ => []
  | _ + 1, [] => []
  | n + 1, x :: ts => x :: takeText (n + 1 - x.after.length) ts

/-- Goes over a row of tiles from the left, as replacing goes over its text. The first number counts
the tiles that belong to the last occurrence. -/
def passFrom (raw : Text) : Nat → List Tile → List Group
  | _, [] => []
  | skip + 1, _ :: ts => passFrom raw skip ts
  | 0, x :: ts =>
    if raw.isPrefixOf (textOf (x :: ts)) then
      let found := takeText raw.length (x :: ts)
      .hit found :: passFrom raw (found.length - 1) ts
    else .miss x :: passFrom raw 0 ts

def pass (raw : Text) (ts : List Tile) : List Group :=
  passFrom raw 0 ts

def marked (new : Text) (gs : List Group) : List Tile :=
  gs.map (Group.tile new)

def mark (raw new : Text) (ts : List Tile) : List Tile :=
  marked new (pass raw ts)

def hitsFrom : Nat → List Group → List Span
  | _, [] => []
  | n, .hit ts :: gs => ⟨n, n + width ts⟩ :: hitsFrom (n + width ts) gs
  | n, .miss x :: gs => hitsFrom (n + x.before.byteSize) gs

def hits (raw : Text) (ts : List Tile) : List Span :=
  hitsFrom 0 (pass raw ts)

variable {raw new s t : Text} {n k : Nat} {ts us vs ws xs : List Tile} {x : Tile} {gs : List Group}
  {r : Span}

section

@[simp]
theorem before_tile (new : Text) (g : Group) : (g.tile new).before = sourceOf g.tiles := by
  cases g with
  | hit ts => rfl
  | miss x => exact (List.append_nil x.before).symm

@[simp]
theorem marked_cons (new : Text) (g : Group) (gs : List Group) :
    marked new (g :: gs) = g.tile new :: marked new gs := rfl

end

/-- Whether a text that is found in a row of tiles is the text of a part of the row: it neither
starts nor ends with a character of some code. -/
structure Clear (raw : Text) (ts : List Tile) : Prop where
  ne_nil : raw ≠ []
  filled : Filled ts
  head : ∀ c ∈ raw.head?, ∀ r n, .code r n ∈ ts → c ∉ n
  last : ∀ c ∈ raw.getLast?, ∀ r n, .code r n ∈ ts → c ∉ n

theorem Clear.of_subset (h : Clear raw ts) (hs : us ⊆ ts) : Clear raw us :=
  ⟨h.ne_nil, h.filled.of_subset hs, fun c hc r n hn => h.head c hc r n (hs hn),
    fun c hc r n hn => h.last c hc r n (hs hn)⟩

theorem exists_textOf_eq (hlast : ∀ c ∈ raw.getLast?, ∀ r n, .code r n ∈ ts → c ∉ n)
    (h : raw <+: textOf ts) :
    ∃ us vs, ts = us ++ vs ∧ textOf us = raw := by
  induction ts generalizing raw with
  | nil => exact ⟨[], [], rfl, (List.prefix_nil.1 h).symm⟩
  | cons x ts ih =>
    have hlater {s : Text} (hs : ∀ c ∈ s.getLast?, c ∈ raw.getLast?) (hp : s <+: textOf ts) :
        ∃ us vs, ts = us ++ vs ∧ textOf us = s :=
      ih (fun c hc r n hn => hlast c (hs c hc) r n (List.mem_cons_of_mem x hn)) hp
    rcases List.prefix_or_prefix_of_prefix h (List.prefix_append x.after (textOf ts)) with hp | ⟨s,
      rfl⟩
    · cases raw with
      | nil => exact ⟨[], x :: ts, rfl, rfl⟩
      | cons c raw =>
        cases x with
        | kept d =>
          have hp : c :: raw <+: [d] := hp
          obtain ⟨rfl, hnil⟩ := List.cons_prefix_cons.1 hp
          rw [List.prefix_nil.1 hnil]
          exact ⟨[.kept c], ts, rfl, rfl⟩
        | code r n =>
          have hl := hlast _ (List.getLast?_eq_some_getLast (List.cons_ne_nil c raw)) r n
            List.mem_cons_self
          exact absurd (hp.subset (List.getLast_mem _)) hl
    · have hp : s <+: textOf ts := (List.prefix_append_right_inj x.after).1 h
      obtain ⟨us, vs, rfl, rfl⟩ :=
        hlater (fun c hc => by rw [List.getLast?_append, Option.mem_def.1 hc]; rfl) hp
      exact ⟨x :: us, vs, rfl, rfl⟩

theorem takeText_textOf (hf : Filled us) (vs : List Tile) :
    takeText (textOf us).length (us ++ vs) = us := by
  induction us with
  | nil => cases vs <;> rfl
  | cons x us ih =>
    have hx := List.length_pos_of_ne_nil (hf x List.mem_cons_self).2
    obtain ⟨n, hn⟩ := Nat.exists_eq_succ_of_ne_zero (n := (textOf (x :: us)).length)
      (by rw [textOf_cons, List.length_append]; omega)
    rw [hn, List.cons_append, takeText, ← Nat.succ_eq_add_one, ← hn, textOf_cons,
      List.length_append, Nat.add_sub_cancel_left, ih (hf.of_subset (List.subset_cons_self x us))]

/-- The groups of a pass. They follow one another from the left: an occurrence wherever one starts,
and a tile wherever none does. -/
inductive IsPass (raw : Text) : List Tile → List Group → Prop where
  | nil : IsPass raw [] []
  | hit (us : List Tile) {ts : List Tile} {gs : List Group} (hu : textOf us = raw)
    (h : IsPass raw ts gs) :
    IsPass raw (us ++ ts) (.hit us :: gs)
  | miss (x : Tile) {ts : List Tile} {gs : List Group} (hx : ¬ raw <+: textOf (x :: ts))
    (h : IsPass raw ts gs) :
    IsPass raw (x :: ts) (.miss x :: gs)

theorem passFrom_drop (raw : Text) (n : Nat) (ts : List Tile) :
    passFrom raw n ts = passFrom raw 0 (ts.drop n) := by
  induction ts generalizing n with
  | nil => cases n <;> rfl
  | cons x ts ih =>
    cases n with
    | zero => rfl
    | succ n => exact ih n

theorem pass_append (hf : Filled us) (hr : textOf us ≠ []) (vs : List Tile) :
    pass (textOf us) (us ++ vs) = .hit us :: pass (textOf us) vs := by
  cases us with
  | nil => exact absurd rfl hr
  | cons x us =>
    have hp : (textOf (x :: us)).isPrefixOf (textOf (x :: (us ++ vs))) = true := by
      rw [← List.cons_append, textOf_append, List.isPrefixOf_iff_prefix]
      exact List.prefix_append _ _
    have hfound : takeText (textOf (x :: us)).length (x :: (us ++ vs)) = x :: us :=
      takeText_textOf hf vs
    rw [pass, List.cons_append, passFrom, if_pos hp, hfound]
    change Group.hit (x :: us) :: passFrom _ us.length _ = _
    rw [passFrom_drop, List.drop_left]
    rfl

theorem pass_cons (h : ¬ raw <+: textOf (x :: ts)) :
    pass raw (x :: ts) = .miss x :: pass raw ts := by
  rw [pass, passFrom, if_neg (fun hp => h (List.isPrefixOf_iff_prefix.1 hp))]
  rfl

theorem isPass_pass (h : Clear raw ts) : IsPass raw ts (pass raw ts) := by
  induction hn : ts.length using Nat.strongRecOn generalizing ts with
  | ind n ih =>
    cases ts with
    | nil => exact .nil
    | cons x ts =>
      by_cases hp : raw <+: textOf (x :: ts)
      · obtain ⟨us, vs, he, rfl⟩ := exists_textOf_eq h.last hp
        rw [he] at h hn ⊢
        have hus : us ≠ [] := by
          rintro rfl
          exact h.ne_nil rfl
        have hpos := List.length_pos_of_ne_nil hus
        rw [pass_append (h.filled.of_subset (List.subset_append_left us vs)) h.ne_nil]
        refine .hit us rfl (ih vs.length ?_ (h.of_subset (List.subset_append_right us vs)) rfl)
        rw [← hn, List.length_append]
        omega
      · rw [pass_cons hp]
        exact .miss x hp (ih ts.length (by rw [← hn]; exact Nat.lt_succ_self _)
          (h.of_subset (List.subset_cons_self x ts)) rfl)

theorem replaceFrom_append_of_not_mem (h : ∀ c ∈ raw.head?, c ∉ s) (hr : raw ≠ []) (t : Text) :
    Text.replaceFrom raw new 0 (s ++ t) = s ++ Text.replaceFrom raw new 0 t := by
  induction s with
  | nil => rfl
  | cons c s ih =>
    have hn : ¬ raw.isPrefixOf (c :: (s ++ t)) = true := by
      intro hp
      obtain ⟨d, r, rfl⟩ := List.exists_cons_of_ne_nil hr
      obtain ⟨rfl, -⟩ := List.cons_prefix_cons.1 (List.isPrefixOf_iff_prefix.1 hp)
      exact h d rfl List.mem_cons_self
    rw [List.cons_append, Text.replaceFrom, if_neg hn, ih, List.cons_append]
    exact fun d hd hm => h d hd (List.mem_cons_of_mem c hm)

theorem replaceFrom_drop (raw new : Text) (n : Nat) (t : Text) :
    Text.replaceFrom raw new n t = Text.replaceFrom raw new 0 (t.drop n) := by
  induction t generalizing n with
  | nil => cases n <;> rfl
  | cons c t ih =>
    cases n with
    | zero => rfl
    | succ n => exact ih n

theorem replaceFrom_append (hr : raw ≠ []) (t : Text) :
    Text.replaceFrom raw new 0 (raw ++ t) = new ++ Text.replaceFrom raw new 0 t := by
  obtain ⟨c, r, rfl⟩ := List.exists_cons_of_ne_nil hr
  have hp : (c :: r).isPrefixOf (c :: (r ++ t)) = true := List.isPrefixOf_iff_prefix.2 ⟨t, rfl⟩
  have hl : (c :: r).length - 1 = r.length := by simp
  rw [List.cons_append, Text.replaceFrom, if_pos hp, replaceFrom_drop, hl, List.drop_left]

theorem le_start_of_hit (hr : r ∈ hitsFrom n gs) : n ≤ r.start ∧ r.start ≤ r.stop := by
  induction gs generalizing n with
  | nil => contradiction
  | cons g gs ih =>
    cases g with
    | hit us =>
      rcases List.mem_cons.1 hr with rfl | hr
      · exact ⟨Nat.le_refl n, Nat.le_add_right _ _⟩
      · exact (ih hr).imp_left (Nat.le_add_right _ _).trans
    | miss x => exact (ih hr).imp_left (Nat.le_add_right _ _).trans

theorem le_start_of_miss (hf : Filled [x]) (hr : r ∈ hitsFrom (n + x.before.byteSize) gs)
    (hu : r.Apart ⟨n, n + width (x :: xs)⟩ ∨ r = ⟨n, n + width (x :: xs)⟩) :
    n + x.before.byteSize + width xs ≤ r.start := by
  have hpos := hf.width_pos (List.cons_ne_nil x [])
  rw [width_cons, width_nil, Nat.add_zero] at hpos
  obtain ⟨hstart, hstop⟩ := le_start_of_hit hr
  rw [Nat.add_assoc, ← width_cons]
  rcases hu with (hb | hb) | rfl
  · have hb : r.stop ≤ n := hb
    omega
  · exact hb
  · have hstart : n + x.before.byteSize ≤ n := hstart
    omega

theorem not_between_of_hit (hr : r ∈ hitsFrom n gs) (h : marked new gs = us ++ vs) :
    n + width us ≤ r.start ∨ r.stop ≤ n + width us := by
  induction gs generalizing n us with
  | nil => contradiction
  | cons g gs ih =>
    cases us with
    | nil => exact .inl (le_start_of_hit hr).1
    | cons x us =>
      obtain ⟨rfl, h'⟩ := List.cons.inj h
      rw [width_cons, ← Nat.add_assoc]
      cases g with
      | hit us' =>
        rcases List.mem_cons.1 hr with rfl | hr
        · exact .inr (Nat.le_add_right _ _)
        · exact ih hr h'
      | miss y => exact ih hr h'

theorem eq_of_range_eq (hf : Filled (ws ++ ts)) (hts : ws ++ ts = us ++ (xs ++ vs))
    (h : Span.mk n (n + width ws) = ⟨n + width us, n + width us + width xs⟩) :
    us = [] ∧ ws = xs := by
  have hstart : n = n + width us := congrArg Span.start h
  have hstop : n + width ws = n + width us + width xs := congrArg Span.stop h
  have hfu : Filled us := hf.of_subset (by simp [hts])
  obtain rfl : us = [] := by
    by_contra hne
    have hpos := hfu.width_pos hne
    omega
  have hwidth : width ws = width xs := by
    rw [width_nil] at hstop
    omega
  exact ⟨rfl, hf.eq_of_width_eq hts hwidth⟩

namespace IsPass

/-- A pass over the tiles is a pass over the text. -/
theorem textOf_eq (h : IsPass raw ts gs) (hc : Clear raw ts) :
    textOf (marked new gs) = Text.replaceFrom raw new 0 (textOf ts) := by
  induction h with
  | nil => rfl
  | hit us hu h ih =>
    have ih := ih (hc.of_subset (List.subset_append_right us _))
    rw [marked_cons, textOf_cons, ih, textOf_append, hu, replaceFrom_append hc.ne_nil]
    rfl
  | miss x hx h ih =>
    have ih := ih (hc.of_subset (List.subset_cons_self x _))
    rw [marked_cons, textOf_cons, ih, textOf_cons]
    cases x with
    | kept c =>
      have hp : ¬ raw.isPrefixOf (c :: textOf _) = true := fun hp =>
        hx (List.isPrefixOf_iff_prefix.1 hp)
      change _ = Text.replaceFrom raw new 0 (c :: textOf _)
      rw [Text.replaceFrom, if_neg hp]
      rfl
    | code r n =>
      exact (replaceFrom_append_of_not_mem (fun c hh => hc.head c hh r n List.mem_cons_self)
        hc.ne_nil _).symm

theorem sourceOf_eq (h : IsPass raw ts gs) : sourceOf (marked new gs) = sourceOf ts := by
  induction h with
  | nil => rfl
  | hit us hu h ih =>
    rw [marked_cons, sourceOf_cons, before_tile, ih, sourceOf_append]
    rfl
  | miss x hx h ih =>
    rw [marked_cons, sourceOf_cons, ih, sourceOf_cons]
    rfl

theorem mem_marked (h : IsPass raw ts gs) (hx : x ∈ marked new gs) :
    x ∈ ts ∨ ∃ us, us ⊆ ts ∧ textOf us = raw ∧ x = .code (sourceOf us) new := by
  induction h with
  | nil => contradiction
  | hit us hu h ih =>
    rcases List.mem_cons.1 hx with rfl | hx
    · exact .inr ⟨us, List.subset_append_left us _, hu, rfl⟩
    · rcases ih hx with hx | ⟨us', hs, hu', he⟩
      · exact .inl (List.mem_append_right us hx)
      · exact .inr ⟨us', List.subset_append_of_subset_right us hs, hu', he⟩
  | miss y hy h ih =>
    rcases List.mem_cons.1 hx with rfl | hx
    · exact .inl List.mem_cons_self
    · rcases ih hx with hx | ⟨us', hs, hu', he⟩
      · exact .inl (List.mem_cons_of_mem y hx)
      · exact .inr ⟨us', List.subset_cons_of_subset y hs, hu', he⟩

theorem exists_of_hit (h : IsPass raw ts gs) (hr : r ∈ hitsFrom n gs) :
    ∃ us ws vs, ts = us ++ (ws ++ vs) ∧ textOf ws = raw
      ∧ r = ⟨n + width us, n + width us + width ws⟩ := by
  induction h generalizing n with
  | nil => contradiction
  | @hit ws ts gs hw h ih =>
    rcases List.mem_cons.1 hr with rfl | hr
    · exact ⟨[], ws, ts, rfl, hw, rfl⟩
    · obtain ⟨us, ws', vs, rfl, hw', rfl⟩ := ih hr
      exact ⟨ws ++ us, ws', vs, by rw [List.append_assoc],
        hw', by rw [width_append, Nat.add_assoc n]⟩
  | miss x hx h ih =>
    obtain ⟨us, ws, vs, rfl, hw, rfl⟩ := ih hr
    exact ⟨x :: us, ws, vs, rfl, hw, by rw [width_cons, Nat.add_assoc n]⟩

theorem exists_append_of_marked (h : IsPass raw ts gs) (hm : marked new gs = us ++ vs) :
    ∃ us' vs', ts = us' ++ vs' ∧ width us' = width us := by
  induction h generalizing us with
  | nil =>
    obtain ⟨rfl, rfl⟩ := List.append_eq_nil_iff.1 hm.symm
    exact ⟨[], [], rfl, rfl⟩
  | @hit ws ts gs hw h ih =>
    cases us with
    | nil => exact ⟨[], ws ++ ts, rfl, rfl⟩
    | cons x us =>
      obtain ⟨rfl, hm'⟩ := List.cons.inj hm
      obtain ⟨us', vs', rfl, hu⟩ := ih hm'
      refine ⟨ws ++ us', vs', by rw [List.append_assoc], ?_⟩
      rw [width_append, width_cons, hu]
      rfl
  | @miss x ts gs hx h ih =>
    cases us with
    | nil => exact ⟨[], x :: ts, rfl, rfl⟩
    | cons y us =>
      obtain ⟨rfl, hm'⟩ := List.cons.inj hm
      obtain ⟨us', vs', rfl, hu⟩ := ih hm'
      exact ⟨x :: us', vs', rfl, by rw [width_cons, width_cons, hu]; rfl⟩

theorem exists_marked_of_le (h : IsPass raw (xs ++ vs) gs) (hf : Filled xs)
    (hu : ∀ r ∈ hitsFrom n gs, n + width xs ≤ r.start) : ∃ vs', marked new gs = xs ++ vs' := by
  induction xs generalizing n gs with
  | nil => exact ⟨marked new gs, rfl⟩
  | cons x xs ih =>
    have hpos := hf.width_pos (List.cons_ne_nil x xs)
    generalize hts : x :: xs ++ vs = ts at h
    cases h with
    | nil => contradiction
    | hit ws hw h =>
      have hle : n + width (x :: xs) ≤ n := hu _ List.mem_cons_self
      omega
    | miss y hy h =>
      obtain ⟨rfl, rfl⟩ := List.cons.inj hts
      obtain ⟨vs', hm⟩ := ih h (hf.of_subset (List.subset_cons_self x xs))
        (n := n + x.before.byteSize) fun r hr => by
        rw [Nat.add_assoc, ← width_cons]
        exact hu r hr
      exact ⟨vs', congrArg (x :: ·) hm⟩

/-- Tiles that a pass does not cut are left in place, or become code as a whole where they are an
occurrence. -/
theorem exists_marked (h : IsPass raw ts gs) (hts : ts = us ++ (xs ++ vs)) (hf : Filled ts)
    (hxs : xs ≠ [])
    (hu : ∀ r ∈ hitsFrom n gs, r.Apart ⟨n + width us, n + width us + width xs⟩
      ∨ r = ⟨n + width us, n + width us + width xs⟩) :
    ∃ us' vs', marked new gs = us' ++ ((if textOf xs = raw then [.code (sourceOf xs) new] else xs)
      ++ vs')
      ∧ width us' = width us := by
  have hfx : Filled xs := hf.of_subset (by simp [hts])
  have hpos := hfx.width_pos hxs
  induction h generalizing us n with
  | nil =>
    obtain ⟨-, h⟩ := List.append_eq_nil_iff.1 hts.symm
    exact absurd (List.append_eq_nil_iff.1 h).1 hxs
  | @hit ws ts gs hw h ih =>
    have hfw : Filled ws := hf.of_subset (List.subset_append_left ws ts)
    rcases hu _ List.mem_cons_self with (hb | hb) | he
    · have hb : n + width ws ≤ n + width us := hb
      obtain ⟨us, rfl, rfl⟩ := hfw.exists_append hts (by omega)
      rw [width_append, ← Nat.add_assoc] at hu
      obtain ⟨us', vs', hm, hwidth⟩ := ih rfl (hf.of_subset (List.subset_append_right ws _))
        fun r hr =>
        hu r (List.mem_cons_of_mem _ hr)
      refine ⟨.code (sourceOf ws) new :: us', vs', congrArg (_ :: ·) hm, ?_⟩
      rw [width_cons, hwidth, width_append]
      rfl
    · have hb : n + width us + width xs ≤ n := hb
      omega
    · obtain ⟨rfl, rfl⟩ := eq_of_range_eq hf hts he
      rw [if_pos hw]
      exact ⟨[], marked new gs, rfl, rfl⟩
  | @miss x ts gs hx h ih =>
    cases us with
    | nil =>
      have hne : textOf xs ≠ raw := by
        rintro rfl
        exact hx ⟨textOf vs, by rw [hts, List.nil_append, textOf_append]⟩
      rw [if_neg hne]
      obtain ⟨y, xs, rfl⟩ := List.exists_cons_of_ne_nil hxs
      obtain ⟨rfl, rfl⟩ := List.cons.inj hts
      have hle := fun r hr => le_start_of_miss (hf.of_subset (by simp)) hr (hu r hr)
      obtain ⟨vs', hm⟩ := h.exists_marked_of_le (hf.of_subset (by simp)) hle
      exact ⟨[], vs', congrArg (x :: ·) hm, rfl⟩
    | cons y us =>
      obtain ⟨rfl, rfl⟩ := List.cons.inj hts
      rw [width_cons, ← Nat.add_assoc] at hu
      obtain ⟨us', vs', hm, hwidth⟩ := ih rfl (hf.of_subset (List.subset_cons_self x _)) hu
      exact ⟨x :: us', vs', congrArg (x :: ·) hm, by rw [width_cons, hwidth, ← width_cons]⟩

end IsPass

theorem textOf_mark (h : Clear raw ts) :
    textOf (mark raw new ts) = (textOf ts).replaceAll raw new := by
  rw [Text.replaceAll, if_neg h.ne_nil]
  exact (isPass_pass h).textOf_eq h

theorem sourceOf_mark (h : Clear raw ts) : sourceOf (mark raw new ts) = sourceOf ts :=
  (isPass_pass h).sourceOf_eq

def Stands (xs : List Tile) (k : Nat) (ts : List Tile) : Prop :=
  ∃ us vs, ts = us ++ (xs ++ vs) ∧ width us = k

namespace Stands

theorem start (h : Stands xs k ts) : Stands [] k ts := by
  obtain ⟨us, vs, rfl, hk⟩ := h
  exact ⟨us, xs ++ vs, rfl, hk⟩

theorem stop (h : Stands xs k ts) : Stands [] (k + width xs) ts := by
  obtain ⟨us, vs, rfl, rfl⟩ := h
  exact ⟨us ++ xs, vs, by rw [List.nil_append, List.append_assoc], width_append us xs⟩

theorem mark (hs : Stands xs k ts) (h : Clear raw ts) (hxs : xs ≠ [])
    (hu : ∀ r ∈ hits raw ts, r.Apart ⟨k, k + width xs⟩ ∨ r = ⟨k, k + width xs⟩) :
    Stands (if textOf xs = raw then [.code (sourceOf xs) new] else xs) k (mark raw new ts) := by
  obtain ⟨us, vs, he, rfl⟩ := hs
  apply (isPass_pass h).exists_marked (n := 0) he h.filled hxs
  rwa [Nat.zero_add]

theorem of_mark (hs : Stands [] k (Masking.mark raw new ts)) (h : Clear raw ts) :
    Stands [] k ts := by
  obtain ⟨us, vs, hm, rfl⟩ := hs
  exact (isPass_pass h).exists_append_of_marked hm

theorem le_or_le (hs : Stands [] k (Masking.mark raw new ts)) (hr : r ∈ hits raw ts) :
    k ≤ r.start ∨ r.stop ≤ k := by
  obtain ⟨us, vs, hm, rfl⟩ := hs
  have hn := not_between_of_hit hr hm
  rwa [Nat.zero_add] at hn

end Stands

theorem exists_of_hit_inside (h : Clear raw ts) (hr : r ∈ hits raw ts) (hs : Stands xs k ts)
    (hin : r.Inside ⟨k, k + width xs⟩) :
    ∃ as ws bs, xs = as ++ (ws ++ bs) ∧ textOf ws = raw
      ∧ r = ⟨k + width as, k + width as + width ws⟩ := by
  obtain ⟨us', ws, vs', rfl, hw, rfl⟩ := (isPass_pass h).exists_of_hit hr
  obtain ⟨us, vs, he, rfl⟩ := hs
  obtain ⟨hin, hin'⟩ := hin
  have hin : width us ≤ 0 + width us' := hin
  have hin' : 0 + width us' + width ws ≤ width us + width xs := hin'
  obtain ⟨as, rfl, has⟩ := Filled.exists_append (h.filled.of_subset (by simp [he])) he.symm
    (by omega)
  have hf : Filled (as ++ ws) := h.filled.of_subset fun x hx => by
    rw [List.append_assoc, ← List.append_assoc as]
    exact List.mem_append_right us (List.mem_append_left vs' hx)
  have has' : (as ++ ws) ++ vs' = xs ++ vs := by rw [List.append_assoc, has]
  rw [width_append] at hin'
  obtain ⟨bs, rfl, -⟩ := hf.exists_append has' (by rw [width_append]; omega)
  exact ⟨as, ws, bs, List.append_assoc as ws bs, hw, by rw [width_append, Nat.zero_add]⟩

end ScriptVeil.Masking
