import ScriptVeil.Proofs.Script.Scan.LineGap
import ScriptVeil.Proofs.Script.Written

namespace ScriptVeil.Script

mutual

/-- The labels of a name that are jumped to from within a statement, as far as they do not belong to
a statement within it. Functions and classes are not entered. -/
def Stmt.jumpsTo (name : Text) : Stmt → List Ident
  | .breakTo label => label.toList.filter fun id => id.name = name
  | .continueTo label => label.toList.filter fun id => id.name = name
  | .labelled label body => if label.name = name then [] else body.jumpsTo name
  | .block body => jumpsOfStmts name body
  | .tryCatch body _ handler finalizer =>
    jumpsOfStmts name body ++ jumpsOfStmts name handler ++ jumpsOfStmts name finalizer
  | .ifElse _ yes no => yes.jumpsTo name ++ no.jumpsTo name
  | .switch _ clauses => jumpsOfStmts name clauses
  | .clause _ body => jumpsOfStmts name body
  | .while _ body => body.jumpsTo name
  | .doWhile body _ => body.jumpsTo name
  | .forLoop _ _ _ body => body.jumpsTo name
  | .forEach _ _ body => body.jumpsTo name
  | .withObject _ body => body.jumpsTo name
  | .empty | .debugger | .expr _ | .vars _ | .using _ | .functionDecl _ _ _ | .classDecl _ _ _
  | .returns _ | .throws _ | .recovered _ => []

def jumpsOfStmts (name : Text) : List Stmt → List Ident
  | [] => []
  | s :: ss => s.jumpsTo name ++ jumpsOfStmts name ss

end

def Document.nodes (d : Document) : List Node :=
  (d.stmts.map Node.stmt).flatMap Node.descendants

variable {name : Text} {id : Ident}

theorem mem_spots_of_mem_label {label : Option Ident}
    (h : id ∈ label.toList.filter fun id => id.name = name) :
    .jump id ∈ label.toList.map Spot.jump ∧ id.name = name := by
  obtain ⟨hid, hname⟩ := List.mem_filter.1 h
  exact ⟨List.mem_map_of_mem hid, of_decide_eq_true hname⟩

theorem jump_mem_spots_all :
    (∀ s : Stmt, ∀ id ∈ s.jumpsTo name, .jump id ∈ s.spots ∧ id.name = name)
      ∧ ∀ ss, ∀ id ∈ jumpsOfStmts name ss, .jump id ∈ spotsOfStmts ss ∧ id.name = name := by
  apply Stmt.jumpsTo.mutual_induct name
  case case1 | case2 => exact fun label id h => mem_spots_of_mem_label h
  all_goals
    intros
    simp_all only [Stmt.jumpsTo, jumpsOfStmts, Stmt.spots, spotsOfStmts, List.mem_append,
      List.mem_cons, List.not_mem_nil]
  all_goals grind

instance : HasSpots Node where
  spots
    | .expr e => e.spots
    | .key k => k.spots
    | .member m => m.spots
    | .stmt s => s.spots

theorem mem_spots_list {α : Type} [HasSpots α] {x : Spot} {l : List α} :
    x ∈ spots l ↔ ∃ a ∈ l, x ∈ spots a :=
  List.mem_flatMap

theorem mem_spots_option {α : Type} [HasSpots α] {x : Spot} {o : Option α} :
    x ∈ spots o ↔ ∃ a, o = some a ∧ x ∈ spots a := by
  cases o <;> simp

namespace Node

variable {m n : Node} {x : Spot}

@[simp]
theorem spots_expr (e : Expr) : spots (expr e) = e.spots := rfl

@[simp]
theorem spots_key (k : Key) : spots (key k) = k.spots := rfl

@[simp]
theorem spots_member (m : Member) : spots (member m) = m.spots := rfl

@[simp]
theorem spots_stmt (s : Stmt) : spots (stmt s) = s.spots := rfl

theorem spots_children_subset (n : Node) : spots n.children ⊆ spots n := by
  intro x hx
  cases n with
  | expr e =>
    cases e <;>
      simp_all [children, Expr.children, mem_spots_list, mem_spots_option]
  | key k =>
    cases k <;> simp_all [children, Key.children, Key.spots]
  | member m =>
    cases m <;> simp_all [children, Member.children, mem_spots_list, mem_spots_option]
  | stmt s =>
    cases s <;> simp_all [children, Stmt.children, mem_spots_list, mem_spots_option]

theorem spots_descendant_subset (n : Node) : ∀ m ∈ n.descendants, spots m ⊆ spots n := by
  induction n using descendants.induct with
  | case1 n ih =>
    intro m hm
    rw [descendants_eq] at hm
    rcases List.mem_cons.1 hm with rfl | hm
    · exact List.Subset.refl _
    · obtain ⟨c, hc, hmc⟩ := List.mem_flatMap.1 hm
      exact fun x hx =>
        spots_children_subset n (mem_spots_list.2 ⟨c, hc, ih ⟨c, hc⟩ m hmc hx⟩)

end Node

theorem Document.spots_node_subset {d : Document} {n : Node} (h : n ∈ d.nodes) :
    spots n ⊆ spots d.body := by
  obtain ⟨m, hm, hn⟩ := List.mem_flatMap.1 h
  obtain ⟨s, hs, rfl⟩ := List.mem_map.1 hm
  intro x hx
  rw [← spots_map_stmt]
  exact mem_spots_list.2 ⟨s, hs, Node.spots_descendant_subset _ n hn hx⟩

/-- The label of a statement and the jumps to it are among the spots of the script. -/
theorem Document.spots_of_labelled {d : Document} {label : Ident} {body : Stmt}
    (h : .stmt (.labelled label body) ∈ d.nodes) :
    .site (.reference label) ∈ spots d.body
      ∧ ∀ id ∈ body.jumpsTo label.name, .jump id ∈ spots d.body ∧ id.name = label.name := by
  have hsubset := Document.spots_node_subset h
  rw [Node.spots_stmt, Stmt.spots] at hsubset
  refine ⟨hsubset List.mem_cons_self, fun id hid => ?_⟩
  obtain ⟨hjump, hname⟩ := jump_mem_spots_all.1 body id hid
  exact ⟨hsubset (List.mem_cons_of_mem _ hjump), hname⟩

namespace Written.At

variable {notes : List Diagnostic} {c after : Cursor} {w : Written}

theorem token_of_jump (h : w.At notes c after) (hj : w.lexeme.token.isJump) :
    w.lexeme.token = .word w.text ∧ StartsNoName after.rest := by
  obtain ⟨keyword, hkeyword, hreserved⟩ :
      ∃ keyword, w.lexeme.token = .word keyword ∧ keyword ∈ alwaysReserved := by
    rcases hj with hj | hj
    · exact ⟨_, hj, by decide⟩
    · exact ⟨_, hj, by decide⟩
  obtain ⟨mode, _, _, hmode, -, -, hread⟩ := h.read_plain (by rw [hkeyword]; rfl)
  rw [hkeyword] at hread
  have htext : w.text = keyword :=
    List.append_cancel_right (rest_eq_of_reserved hread (hmode keyword hreserved))
  exact ⟨by rw [hkeyword, htext], startsNoName_of_tokenAt hread⟩

theorem gap_of_line (h : w.At notes c after) (hc : StartsNoName c.rest)
    (hw : w.lexeme.token = .word name) (hn : w.lexeme.newline = false) :
    w.gap ++ w.front ≠ [] ∧ EndsInLineGap (w.gap ++ w.front) := by
  obtain ⟨mode, atStart, _, -, hgap, hnewline, hread⟩ := h.read_plain (by rw [hw]; rfl)
  rw [hw] at hread
  obtain ⟨ch, _, hch, hstart, -⟩ := tokenAt_eq_word hread
  have hrest : c.rest = w.gap ++ w.front ++ (w.text ++ after.rest) := by
    rw [h.rest_eq, source]
    simp only [List.append_assoc]
  constructor
  · intro hnil
    have hhead : c.rest.head? = some ch := by
      rw [hrest, hnil]
      exact hch
    obtain ⟨hpart, hslash⟩ := hc ch hhead
    rcases hstart with hstart | hstart
    · rw [isNamePart_of_isNameStart hstart] at hpart
      contradiction
    · contradiction
  · have hne : (gapAt atStart c).after.rest ≠ [] := by
      intro hnil
      rw [hgap] at hnil
      rw [hnil] at hch
      contradiction
    obtain ⟨-, s, hs, hends, -⟩ := endsInLineGap_gapFrom (hnewline.trans hn) hne
    have hs : c.rest = s ++ (w.text ++ after.rest) :=
      hs.trans (congrArg (s ++ Cursor.rest ·) hgap)
    rwa [← List.append_cancel_right (hs.symm.trans hrest)]

end Written.At

end ScriptVeil.Script
