import ScriptVeil.Proofs.Script.Parser.Moves
import ScriptVeil.Proofs.Script.Spot

namespace ScriptVeil.Script

/-- The spot with its role in a member forgotten. -/
def Spot.plain : Spot → Spot
  | .site (.shorthand id) => .site (.reference id)
  | x => x

def Site.literalSpan? : Site → Option Span
  | .string lit => some lit.span
  | _ => none

def literalSpans (l : List Site) : List Span :=
  l.filterMap Site.literalSpan?

def Spot.literalSpans (l : List Spot) : List Span :=
  Script.literalSpans (l.map Spot.toSite)

def Site.Is (l : Lexeme) : Site → Prop
  | .reference id | .shorthand id => l.span = id.span ∧ l.token = .word id.name
  | .string lit => l.span = lit.span ∧ ∃ raw, l.token = .string lit.value raw

def Token.isJump (token : Token) : Prop :=
  token = .word "break".toList ∨ token = .word "continue".toList

/-- Whether a spot of a tree is found among tokens. The label of a jump stands on the line of its
keyword; unless there was a mistake, its word ends with it. -/
def Spot.In (t : Text) (notes : List Diagnostic) (ls : List Lexeme) : Spot → Prop
  | .site s => ∃ l ∈ ls, s.Is l
  | .jump label => ∃ b l, [b, l] <:+: ls ∧ b.token.isJump ∧ l.newline = false
    ∧ (Site.reference label).Is l ∧ (notes = [] → EndsWord t label.span.stop)

/-- Whether some spots are found among others: the same tokens, with the literals in the same
order. -/
structure Among (l m : List Spot) : Prop where
  sublist : (Spot.literalSpans l).Sublist (Spot.literalSpans m)
  subset : l.map Spot.plain ⊆ m.map Spot.plain

structure Among.Tokens (t : Text) (notes : List Diagnostic) (ls : List Lexeme) (l : List Spot) :
    Prop where
  spots_in : ∀ x ∈ l, x.In t notes ls
  sublist : (Spot.literalSpans l).Sublist (ls.map Lexeme.span)

def Covers (t : Text) (s : State) (l : List Spot) : Prop :=
  Among.Tokens t s.notes s.taken.reverse l

variable {t : Text} {notes notes' : List Diagnostic} {ls ls' : List Lexeme}
  {s s' : State} {l m n : List Spot}

namespace Spot

@[simp]
theorem literalSpans_append (l m : List Spot) :
    literalSpans (l ++ m) = literalSpans l ++ literalSpans m := by
  rw [literalSpans, List.map_append]
  exact List.filterMap_append

theorem in_plain {x : Spot} : x.plain.In t notes ls ↔ x.In t notes ls := by
  match x with
  | .site (.shorthand id) | .site (.reference id) | .site (.string lit) | .jump label => rfl

theorem In.mono {x : Spot} (h : x.In t notes ls) (hn : notes ⊆ notes') (hl : ls <:+: ls') :
    x.In t notes' ls' := by
  cases x with
  | site s =>
    obtain ⟨y, hy, h⟩ := h
    exact ⟨y, hl.subset hy, h⟩
  | jump label =>
    obtain ⟨b, y, hy, hb, hy', h, he⟩ := h
    exact ⟨b, y, hy.trans hl, hb, hy', h, fun hn' => he (List.subset_nil.1 (hn' ▸ hn))⟩

theorem In.exists_is {x : Spot} (h : x.In t notes ls) : ∃ l ∈ ls, x.toSite.Is l := by
  cases x with
  | site s => exact h
  | jump label =>
    obtain ⟨b, y, hy, -, -, h, -⟩ := h
    exact ⟨y, hy.subset (by simp), h⟩

end Spot

namespace Among

@[simp]
theorem refl (l : List Spot) : Among l l :=
  ⟨.refl _, List.Subset.refl _⟩

@[simp]
theorem nil (l : List Spot) : Among [] l :=
  ⟨List.nil_sublist _, List.nil_subset _⟩

theorem trans (h : Among l m) (h' : Among m n) : Among l n :=
  ⟨h.sublist.trans h'.sublist, List.Subset.trans h.subset h'.subset⟩

theorem of_sublist (h : l.Sublist m) : Among l m :=
  ⟨(h.map _).filterMap _, (h.map _).subset⟩

theorem append {l' m' : List Spot} (h : Among l m) (h' : Among l' m') :
    Among (l ++ l') (m ++ m') := by
  refine ⟨?_, ?_⟩
  · rw [Spot.literalSpans_append, Spot.literalSpans_append]
    exact h.sublist.append h'.sublist
  · rw [List.map_append, List.map_append]
    exact List.append_subset.2 ⟨List.subset_append_of_subset_left _ h.subset,
      List.subset_append_of_subset_right _ h'.subset⟩

theorem cons (x : Spot) (h : Among l m) : Among (x :: l) (x :: m) :=
  append (refl [x]) h

theorem shorthand_cons (id : Ident) (h : Among l m) :
    Among (.site (.shorthand id) :: l) (.site (.reference id) :: m) := by
  have hid : Among [.site (.shorthand id)] [.site (.reference id)] := ⟨.slnil, List.Subset.refl _⟩
  exact hid.append h

namespace Tokens

theorem nil : Tokens t notes ls [] :=
  ⟨nofun, List.nil_sublist _⟩

theorem among (h : Tokens t notes ls m) (hl : Among l m) : Tokens t notes ls l := by
  refine ⟨fun x hx => ?_, hl.sublist.trans h.sublist⟩
  obtain ⟨y, hy, he⟩ := List.mem_map.1 (hl.subset (List.mem_map_of_mem hx))
  rw [← Spot.in_plain, ← he, Spot.in_plain]
  exact h.spots_in y hy

theorem mono (h : Tokens t notes ls l) (hn : notes ⊆ notes') (hl : ls <:+: ls') :
    Tokens t notes' ls' l :=
  ⟨fun x hx => (h.spots_in x hx).mono hn hl, h.sublist.trans (hl.sublist.map _)⟩

theorem append (h : Tokens t notes ls l) (h' : Tokens t notes ls' m) :
    Tokens t notes (ls ++ ls') (l ++ m) := by
  refine ⟨fun x hx => ?_, ?_⟩
  · rcases List.mem_append.1 hx with hx | hx
    · exact (h.spots_in x hx).mono (List.Subset.refl _) (List.prefix_append _ _).isInfix
    · exact (h'.spots_in x hx).mono (List.Subset.refl _) (List.suffix_append _ _).isInfix
  · rw [Spot.literalSpans_append, List.map_append]
    exact h.sublist.append h'.sublist

end Tokens

end Among

namespace Covers

theorem later (h : Covers t s l) (hs : s.Leads t s') : Covers t s' l :=
  h.mono hs.1 hs.taken_prefix.isInfix

theorem taking {x : Lexeme} (h : Covers t s l) (hm : Among.Tokens t s.notes [x] m) :
    Covers t (s.taking x) (l ++ m) := by
  have htaken : (s.taking x).taken.reverse = s.taken.reverse ++ [x] := List.reverse_cons
  rw [Covers, htaken]
  exact h.append hm

end Covers

class HasSpots (α : Type) where
  spots : α → List Spot

export HasSpots (spots)

instance (priority := low) (α : Type) : HasSpots α := ⟨fun _ => []⟩
instance : HasSpots Expr := ⟨Expr.spots⟩
instance : HasSpots Member := ⟨Member.spots⟩
instance : HasSpots Stmt := ⟨Stmt.spots⟩
instance : HasSpots TopLevel := ⟨fun s => s.stmt.spots⟩
instance : HasSpots Ident := ⟨fun id => [.site (.reference id)]⟩
instance : HasSpots Key where
  spots
    | .word id => [.site (.reference id)]
    | k => k.spots

instance {α : Type} [HasSpots α] : HasSpots (Option α) := ⟨fun o => o.toList.flatMap spots⟩
instance {α : Type} [HasSpots α] : HasSpots (List α) := ⟨fun l => l.flatMap spots⟩
instance {α β : Type} [HasSpots α] [HasSpots β] : HasSpots (α × β) :=
  ⟨fun p => spots p.1 ++ spots p.2⟩

@[simp]
theorem spots_expr (e : Expr) : spots e = e.spots := rfl

@[simp]
theorem spots_member (m : Member) : spots m = m.spots := rfl

@[simp]
theorem spots_stmt (s : Stmt) : spots s = s.spots := rfl

@[simp]
theorem spots_topLevel (s : TopLevel) : spots s = s.stmt.spots := rfl

@[simp]
theorem spots_ident (id : Ident) : spots id = [.site (.reference id)] := rfl

@[simp]
theorem spots_bool (b : Bool) : spots b = [] := rfl

@[simp]
theorem spots_nat (n : Nat) : spots n = [] := rfl

@[simp]
theorem spots_optionNat (n : Option Nat) : spots n = [] := by
  cases n <;> rfl

section

variable {α β : Type} [HasSpots α] [HasSpots β]

@[simp]
theorem spots_none : spots (none : Option α) = [] := rfl

@[simp]
theorem spots_some (a : α) : spots (some a) = spots a :=
  List.append_nil _

@[simp]
theorem spots_nil : spots ([] : List α) = [] := rfl

@[simp]
theorem spots_cons (a : α) (as : List α) : spots (a :: as) = spots a ++ spots as := rfl

@[simp]
theorem spots_append (as bs : List α) : spots (as ++ bs) = spots as ++ spots bs :=
  List.flatMap_append

@[simp]
theorem spots_prod (p : α × β) : spots p = spots p.1 ++ spots p.2 := rfl

end

@[simp]
theorem spotsOfExprs_eq_spots (es : List Expr) : spotsOfExprs es = spots es := by
  induction es with
  | nil => rfl
  | cons e es ih => rw [spotsOfExprs, ih, spots_cons, spots_expr]

@[simp]
theorem spotsOfMembers_eq_spots (ms : List Member) : spotsOfMembers ms = spots ms := by
  induction ms with
  | nil => rfl
  | cons m ms ih => rw [spotsOfMembers, ih, spots_cons, spots_member]

@[simp]
theorem spotsOfStmts_eq_spots (ss : List Stmt) : spotsOfStmts ss = spots ss := by
  induction ss with
  | nil => rfl
  | cons s ss ih => rw [spotsOfStmts, ih, spots_cons, spots_stmt]

@[simp]
theorem spotsOfOption_eq_spots (e? : Option Expr) : spotsOfOption e? = spots e? := by
  cases e? with
  | none => rfl
  | some e => exact (spots_some e).symm

@[simp]
theorem optionSpots_eq_spots (id? : Option Ident) : Ident.optionSpots id? = spots id? := by
  cases id? <;> rfl

@[simp]
theorem spots_map_stmt (body : List TopLevel) : spots (body.map TopLevel.stmt) = spots body := by
  induction body with
  | nil => rfl
  | cons s body ih => rw [List.map_cons, spots_cons, ih, spots_cons, spots_stmt, spots_topLevel]

attribute [simp] Expr.spots Member.spots Stmt.spots

@[simp]
theorem spots_word (id : Ident) : spots (Key.word id) = [.site (.reference id)] := rfl

@[simp]
theorem spots_computed (e : Expr) : spots (Key.computed e) = e.spots := rfl

/-- A key is built of its word, which is no site of its own. -/
theorem among_spots_key (k : Key) : Among k.spots (spots k) := by
  cases k with
  | word id => exact .nil _
  | _ => exact .refl _

theorem spots_key_name? {k : Key} {id : Ident} (h : k.name? = some id) :
    spots k = [.site (.reference id)] := by
  cases k with
  | word id' => rw [← Option.some.inj h]; rfl
  | _ => contradiction

namespace Parser

/-- With some spots found already, a parser that succeeds gives a value whose spots are made of them
and of tokens it takes. Any others in front are kept. -/
def Makes {α : Type} [HasSpots α] (t : Text) (l : List Spot) (x : Parser α) : Prop :=
  ∀ s k, Covers t s (k ++ l) → Goes t s x fun s' a => Covers t s' (k ++ spots a)

namespace Makes

variable {α β : Type} [HasSpots α] [HasSpots β] {x : Parser α} {f : α → Parser β}

theorem pure {a : α} (h : Among (spots a) l) : Makes t l (Pure.pure a) :=
  fun _ k hl => .pure fun _ => hl.among (.append (.refl k) h)

theorem step {γ : Type} {y : Parser γ} [Moves t y] {f : γ → Parser β} (hf : ∀ a, Makes t l (f a)) :
    Makes t l (y >>= f) :=
  fun s k hl => (Moves.goes s).bind fun s' a hs _ => hf a s' k (hl.later hs)

theorem bindOn (hx : Makes t m x) (hf : ∀ a, Makes t (l ++ spots a) (f a)) :
    Makes t (l ++ m) (x >>= f) := by
  intro s k hlm
  rw [← List.append_assoc] at hlm
  refine (hx s (k ++ l) hlm).bind fun s' a _ ha => hf a s' k ?_
  rwa [← List.append_assoc]

theorem bind (hx : Makes t [] x) (hf : ∀ a, Makes t (l ++ spots a) (f a)) :
    Makes t l (x >>= f) := by
  have h := bindOn hx hf
  rwa [List.append_nil] at h

theorem weaken (h : Among m l) (hx : Makes t m x) : Makes t l x :=
  fun s k hl => hx s k (hl.among (.append (.refl k) h))

theorem ite {p : Prop} [Decidable p] {y : Parser α} (hx : Makes t l x) (hy : Makes t l y) :
    Makes t l (if p then x else y) := by
  split <;> assumption

theorem within {change : Context → Context} (hx : Makes t l x) : Makes t l (within change x) :=
  fun s k hl => (hx s k hl).within change

theorem tryCatch {handle : Diagnostic → Parser α} (hx : Makes t l x)
    (hh : ∀ d, Makes t l (handle d)) : Makes t l (tryCatch x handle) :=
  fun s k hl => (hx s k hl).tryCatch fun s' d hs => hh d s' k (hl.later hs)

theorem moves (hx : Makes t [] x) : Moves t x :=
  ⟨fun s => (hx s [] .nil).imp fun _ _ _ _ => trivial⟩

theorem failAt (offset : Nat) (cause : Cause) : Makes t l (failAt offset cause : Parser α) :=
  fun _ _ _ => failAt_goes offset cause

theorem throw (d : Diagnostic) : Makes t l (throw d : Parser α) :=
  fun _ _ _ => .throw

theorem fail (cause : Cause) : Makes t l (fail cause : Parser α) :=
  fun _ _ _ => fail_goes cause

theorem unexpected (wanted : String) : Makes t l (unexpected wanted : Parser α) :=
  fun _ _ _ => unexpected_goes wanted

theorem allowingIn (hx : Makes t l x) : Makes t l (allowingIn x) :=
  hx.within

theorem repeatedWith {σ : Type} [HasSpots σ] {a : σ} {step : σ → Parser (Option (α × σ))}
    (hstep : ∀ a, Makes t [] (step a)) (ha : spots a = []) : Makes t [] (repeatedWith a step) := by
  intro s k hs
  refine (Goes.repeatedWith
    (I := fun s found a => Covers t s (k ++ (spots found.reverse ++ spots a)))
    (fun s found a h => ?_) fun s' hs' => ?_).imp
      fun s' r _ h => by rwa [List.reverse_reverse] at h
  · have hf : Covers t s ((k ++ spots found.reverse) ++ []) := by
      rw [List.append_nil]
      exact h.among (.append (.refl k) (.of_sublist (List.sublist_append_left _ _)))
    apply (hstep a s _ hf).imp
    intro s' o hs' ho
    split
    · next b a' =>
      have he : k ++ (spots (b :: found).reverse ++ spots a')
          = k ++ spots found.reverse ++ spots (some (b, a')) := by
        simp [spots]
      rwa [he]
    · exact h.later hs'
  · rw [ha]
    exact hs.later hs'

theorem repeated {step : Parser (Option α)} (hstep : Makes t [] step) :
    Makes t [] (repeated step) := by
  rw [Parser.repeated]
  refine .bind (.repeatedWith (fun _ => ?_) rfl) fun r => .pure ?_
  · refine .bind hstep fun o => .pure ?_
    cases o <;> simp [spots]
  · simp [spots]

theorem iterated {a : α} {step : α → Parser (Option α)} (hstep : ∀ a, Makes t (spots a) (step a)) :
    Makes t (spots a) (iterated a step) := by
  intro s k hs
  rw [Parser.iterated]
  refine .bind (Goes.repeatedWith (I := fun s _ a => Covers t s (k ++ spots a))
    (fun s found a h => ?_) fun s' hs' => hs.later hs') fun s' r _ h => .pure fun _ => h
  refine (hstep a s k h).bind fun s' o hs' ho => .pure fun _ => ?_
  cases o with
  | none => exact h.later hs'
  | some b =>
    simpa [spots] using ho

end Makes

end Parser

/-- The rules of a grammar build their results from the tokens they take. -/
structure Grammar.Sound (t : Text) (g : Grammar) : Prop where
  statement : ∀ place, Parser.Makes t [] (g.statement place)
  expression : Parser.Makes t [] g.expression
  assignment : Parser.Makes t [] g.assignment
  unary : Parser.Makes t [] g.unary
  operators : ∀ left level, Parser.Makes t (spots left) (g.operators left level)
  construction : Parser.Makes t [] g.construction
  binding : ∀ denyLet, Parser.Makes t [] (g.binding denyLet)

end ScriptVeil.Script
