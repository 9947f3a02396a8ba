import ScriptVeil.Proofs.Script.Parser.WordEnd
import ScriptVeil.Script.Parser.Statement

namespace ScriptVeil.Script

variable {t : Text} {s : State}

namespace Parser

/-- Spots that are found among the tokens taken, of which the last one is the keyword of a jump. -/
def CoversJump (t : Text) (s : State) (l : List Spot) : Prop :=
  Covers t s l ∧ ∃ b ∈ s.taken.head?, b.token.isJump

theorem CoversJump.later {l : List Spot} {s' : State} (h : CoversJump t s l) (hs : s.Leads t s')
    (ht : s'.taken = s.taken) : CoversJump t s' l :=
  ⟨h.1.later hs, ht ▸ h.2⟩

theorem CoversJump.jump {l : List Spot} {x : Lexeme} {id : Ident} {s' : State}
    (h : CoversJump t s l) (hn : x.newline = false) (hid : (Site.reference id).Is x)
    (hs : (s.taking x).Leads t s') (he : s'.notes = [] → EndsWord t id.span.stop) :
    Covers t s' (l ++ [.jump id]) := by
  obtain ⟨hl, b, hb, hjump⟩ := h
  obtain ⟨taken, htaken⟩ := List.head?_eq_some_iff.1 hb
  have hinfix : [b, x] <:+: s'.taken.reverse := by
    refine List.IsInfix.trans ?_ hs.taken_prefix.isInfix
    change [b, x] <:+: (x :: s.taken).reverse
    rw [htaken, List.reverse_cons, List.reverse_cons, List.append_assoc]
    exact (List.suffix_append _ [b, x]).isInfix
  have hlater : Covers t s' l := by
    have htaking : Covers t (s.taking x) (l ++ []) := hl.taking .nil
    rw [List.append_nil] at htaking
    exact htaking.later hs
  refine ⟨fun y hy => ?_, ?_⟩
  · rcases List.mem_append.1 hy with hy | hy
    · exact hlater.spots_in y hy
    · obtain rfl := List.mem_singleton.1 hy
      exact ⟨b, x, hinfix, hjump, hn, hid, he⟩
  · rw [Spot.literalSpans_append]
    exact (List.append_nil _).symm ▸ hlater.sublist

theorem jumpLabel_goes {k : List Spot} (hs : CoversJump t s k) :
    Goes t s jumpLabel fun s' label => Covers t s' (k ++ label.toList.map .jump) := by
  rw [jumpLabel]
  apply Goes.bind eatStatementEnd_goes.sound
  rintro s₁ b hs₁ ⟨hsound, h, -⟩
  cases b with
  | true =>
    apply Goes.pure
    intro _
    rw [Option.toList_none, List.map_nil, List.append_nil]
    exact hs.1.later hs₁
  | false =>
    obtain ⟨htaken, x, hx, hn⟩ := h rfl
    replace hs := hs.later hs₁ htaken
    apply Goes.bind (reference_goes hx)
    rintro s₂ id - ⟨hid, hleads, heq⟩
    apply Goes.bind expectStatementEnd_goes
    intro s₃ _ hs₃ hend
    apply Goes.pure
    intro _
    have he : s₂.notes = [] → EndsWord t id.span.stop := by
      intro hnotes
      obtain rfl := heq hnotes
      rw [← hid.1]
      have hplain : x.token.isPlain = true := by rw [hid.2]; rfl
      exact hend (hsound.endsAtLine_taking hx hplain)
    exact (hs.jump hn hid hleads he).later hs₃

theorem take_coversJump {k : List Spot} {token : Token} (hs : Covers t s k) (h : Sees s token)
    (ht : token.isJump) : Goes t s take fun s' _ => CoversJump t s' k := by
  obtain ⟨x, hx, rfl⟩ := h
  apply take_goes.imp
  intro s' _ hs' h
  obtain ⟨rfl, -⟩ := h x hx
  exact ⟨hs.later hs', x, rfl, ht⟩

/-- With the next token known, a parser that succeeds gives a value whose spots are made of tokens
that it takes. -/
def MakesSeeing {α : Type} [HasSpots α] (t : Text) (token : Token) (x : Parser α) : Prop :=
  ∀ s k, Sees s token → Covers t s k → Goes t s x fun s' a => Covers t s' (k ++ spots a)

theorem Makes.seeing {α : Type} [HasSpots α] {token : Token} {x : Parser α} (hx : Makes t [] x) :
    MakesSeeing t token x :=
  fun s k _ hs => hx s k (by rwa [List.append_nil])

theorem MakesSeeing.jump {α : Type} [HasSpots α] {token : Token} (ht : token.isJump)
    {f : Nat → Option Ident → Parser α}
    (hf : ∀ start label, Makes t (label.toList.map .jump) (f start label)) :
    MakesSeeing t token (do
      let start ← here
      take
      let label ← jumpLabel
      f start label) := by
  intro s k h hs
  apply Goes.bind here_goes
  intro s₁ start _ he
  have ha : s.ahead ≠ none := by
    obtain ⟨x, hx, -⟩ := h
    rw [hx]
    exact Option.some_ne_none x
  rw [he.eq_of_ahead ha]
  apply Goes.bind (take_coversJump hs h ht)
  intro s₂ _ _ hs₂
  exact (jumpLabel_goes hs₂).bind fun s₃ label _ hs₃ => hf start label s₃ k hs₃

theorem breakStatement_makes : MakesSeeing t (.word "break".toList) breakStatement := by
  simp only [breakStatement]
  apply MakesSeeing.jump (.inl rfl)
  intro start label
  repeat' first
    | apply Makes.step; intro _
    | apply Makes.ite
    | exact .pure (by simp)

theorem continueStatement_makes : MakesSeeing t (.word "continue".toList) continueStatement := by
  simp only [continueStatement]
  apply MakesSeeing.jump (.inr rfl)
  intro start label
  repeat' first
    | apply Makes.step; intro _
    | apply Makes.ite
    | exact .pure (by simp)

end Parser

end ScriptVeil.Script
