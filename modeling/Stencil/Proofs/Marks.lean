import Mathlib
import Stencil.Node
import Stencil.Token

/-!
# Marks

What trees and tokens have in common, in the order of the document. A mark is what a tree keeps of a
token: the spelling of plain text is lost, and so is where a block tag stands. Neighbouring texts
are put together. A tree in which no body has two literals side by side has marks of which no two
neighbours are texts, and the other way round.
-/

namespace Stencil

def Opening.branch : Opening → Tag
  | .loop .. => .empty
  | .choice .. => .otherwise

def Opening.closing : Opening → Tag
  | .loop .. => .endLoop
  | .choice .. => .endChoice

theorem Opening.closing?_tag (opening : Opening) : opening.tag.closing? = some opening.closing := by
  cases opening <;> rfl

theorem Opening.owner_branch (opening : Opening) : opening.branch.owner = opening.tag := by
  cases opening <;> rfl

/-- What a tree keeps of a token. -/
inductive Mark where
  | text (content : String)
  | output (path : Path) (filters : List String) (offset : Nat)
  | opening (block : Opening)
  | branch (tag : Tag)
  | closing (tag : Tag)
  deriving DecidableEq, Repr

def Token.mark (token : Token) : Mark :=
  match token.kind with
  | .literal text => .text text
  | .named brace => .text brace.text
  | .output path filters => .output path filters token.span.start
  | .opening block => .opening block
  | .branch tag => .branch tag
  | .closing tag => .closing tag

namespace Node

mutual

def marks : Node → List Mark
  | .literal text => [.text text]
  | .output path filters offset => [.output path filters offset]
  | .loop var source body onEmpty =>
    .opening (.loop var source) ::
      (marksOf body ++ marksOfBranch .empty onEmpty ++ [.closing .endLoop])
  | .choice condition negated body otherwise =>
    .opening (.choice condition negated) ::
      (marksOf body ++ marksOfBranch .otherwise otherwise ++ [.closing .endChoice])

def marksOf : List Node → List Mark
  | [] => []
  | node :: nodes => marks node ++ marksOf nodes

def marksOfBranch (tag : Tag) : Option (List Node) → List Mark
  | none => []
  | some body => .branch tag :: marksOf body

end

theorem marksOf_append (front back : List Node) :
    marksOf (front ++ back) = marksOf front ++ marksOf back := by
  induction front with
  | nil => rfl
  | cons node front ih => simp [marksOf, ih]

theorem marksOf_singleton (node : Node) : marksOf [node] = node.marks := by
  simp [marksOf]

/-- Whether two nodes may be neighbours: not if both are literals. -/
def Apart : Node → Node → Prop
  | .literal _, .literal _ => False
  | _, _ => True

mutual

/-- No body inside a node has two literals side by side. -/
def Separated : Node → Prop
  | .literal _ | .output .. => True
  | .loop _ _ body onEmpty => (body.IsChain Apart ∧ SeparatedAll body) ∧ SeparatedBranch onEmpty
  | .choice _ _ body otherwise =>
    (body.IsChain Apart ∧ SeparatedAll body) ∧ SeparatedBranch otherwise

def SeparatedAll : List Node → Prop
  | [] => True
  | node :: nodes => Separated node ∧ SeparatedAll nodes

def SeparatedBranch : Option (List Node) → Prop
  | none => True
  | some body => body.IsChain Apart ∧ SeparatedAll body

end

/-- Neither a body nor any body inside it has two literals side by side. -/
def SeparatedBody (body : List Node) : Prop :=
  body.IsChain Apart ∧ SeparatedAll body

end Node

-- ---------------------------------------------------------------------------
-- Putting texts together
-- ---------------------------------------------------------------------------

namespace Mark

def push : List Mark → Mark → List Mark
  | [.text front], .text back => [.text (front ++ back)]
  | [], mark => [mark]
  | first :: marks, mark => first :: push marks mark

def merge (marks : List Mark) : List Mark :=
  marks.foldl push []

def Apart : Mark → Mark → Prop
  | .text _, .text _ => False
  | _, _ => True

def IsTag (mark : Mark) : Prop :=
  ∀ content, mark ≠ .text content

def ProperBranch : Mark → Prop
  | .branch tag => tag = .otherwise ∨ tag = .empty
  | _ => True

@[simp] theorem isTag_output (path : Path) (filters : List String) (offset : Nat) :
    (output path filters offset).IsTag := nofun

@[simp] theorem isTag_opening (block : Opening) : (opening block).IsTag := nofun

@[simp] theorem isTag_branch (tag : Tag) : (branch tag).IsTag := nofun

@[simp] theorem isTag_closing (tag : Tag) : (closing tag).IsTag := nofun

theorem IsTag.apart_right {mark : Mark} (h : mark.IsTag) (other : Mark) : Apart other mark := by
  cases mark with
  | text content => exact (h content rfl).elim
  | _ => cases other <;> trivial

theorem push_cons_cons (first next : Mark) (marks : List Mark) (mark : Mark) :
    push (first :: next :: marks) mark = first :: push (next :: marks) mark := by
  rw [push]
  exact fun _ _ _ _ h => nomatch h

theorem push_append (front : List Mark) {marks : List Mark} (h : marks ≠ []) (mark : Mark) :
    push (front ++ marks) mark = front ++ push marks mark := by
  induction front with
  | nil => rfl
  | cons first front ih =>
    obtain ⟨next, others, hn⟩ :=
      List.exists_cons_of_ne_nil (List.append_ne_nil_of_right_ne_nil front h)
    rw [List.cons_append, List.cons_append, ← ih, hn, push_cons_cons]

theorem push_cases (marks : List Mark) (mark : Mark) :
    (∀ last ∈ marks.getLast?, Apart last mark) ∧ push marks mark = marks ++ [mark] ∨
      ∃ front a b, marks = front ++ [.text a] ∧ mark = .text b ∧
        push marks mark = front ++ [.text (a ++ b)] := by
  rcases List.eq_nil_or_concat' marks with rfl | ⟨front, last, rfl⟩
  · exact .inl ⟨by simp, rfl⟩
  · rw [push_append front (by simp)]
    cases last with
    | text a =>
      cases mark with
      | text b => exact .inr ⟨front, a, b, rfl, rfl, rfl⟩
      | _ => exact .inl ⟨by simp [Apart], by simp [push]⟩
    | _ => exact .inl ⟨by simp [Apart], by simp [push]⟩

theorem push_of_apart {marks : List Mark} {mark : Mark}
    (h : ∀ last ∈ marks.getLast?, Apart last mark) : push marks mark = marks ++ [mark] := by
  rcases push_cases marks mark with ⟨-, hpush⟩ | ⟨front, a, b, rfl, rfl, -⟩
  · exact hpush
  · exact (h (.text a) (by simp)).elim

theorem push_of_isTag {mark : Mark} (h : mark.IsTag) (marks : List Mark) :
    push marks mark = marks ++ [mark] :=
  push_of_apart fun last _ => h.apart_right last

theorem isChain_push {marks : List Mark} {mark : Mark} (h : marks.IsChain Apart) :
    (push marks mark).IsChain Apart := by
  rcases push_cases marks mark with ⟨hlast, hpush⟩ | ⟨front, a, b, rfl, rfl, hpush⟩
  · rw [hpush, List.isChain_append]
    exact ⟨h, List.isChain_singleton _, by simpa using hlast⟩
  · -- The text that grows is as far from its neighbour as it was.
    rw [hpush, List.isChain_append]
    obtain ⟨hfront, -, hlast⟩ := List.isChain_append.mp h
    refine ⟨hfront, List.isChain_singleton _, fun last hl next hn => ?_⟩
    have := hlast last hl (.text a) (by simp)
    obtain rfl : .text (a ++ b) = next := by simpa using hn
    cases last <;> trivial

theorem isChain_merge (marks : List Mark) : (merge marks).IsChain Apart := by
  suffices h : ∀ start : List Mark, start.IsChain Apart → (marks.foldl push start).IsChain Apart
    from h [] List.isChain_nil
  induction marks with
  | nil => exact fun _ h => h
  | cons mark marks ih => exact fun start h => ih (push start mark) (isChain_push h)

theorem forall_mem_merge {p : Mark → Prop}
    (hjoin : ∀ a b, p (.text a) → p (.text b) → p (.text (a ++ b))) {marks : List Mark}
    (h : ∀ mark ∈ marks, p mark) : ∀ mark ∈ merge marks, p mark := by
  suffices hs : ∀ start : List Mark, (∀ mark ∈ start, p mark) →
      ∀ mark ∈ marks.foldl push start, p mark from hs [] (by simp)
  induction marks with
  | nil => exact fun _ h => h
  | cons next marks ih =>
    obtain ⟨hnext, hrest⟩ := List.forall_mem_cons.mp h
    refine fun start hstart => ih hrest (push start next) ?_
    rcases push_cases start next with ⟨-, hpush⟩ | ⟨front, a, b, rfl, rfl, hpush⟩
    · rw [hpush]
      exact List.forall_mem_append.mpr ⟨hstart, by simpa using hnext⟩
    · rw [hpush]
      obtain ⟨hfront, ha⟩ := List.forall_mem_append.mp hstart
      exact List.forall_mem_append.mpr ⟨hfront, by simpa using hjoin a b (by simpa using ha) hnext⟩

theorem merge_concat (marks : List Mark) (mark : Mark) :
    merge (marks ++ [mark]) = push (merge marks) mark := by
  simp [merge]

theorem push_ne_nil (marks : List Mark) (mark : Mark) : push marks mark ≠ [] := by
  rcases push_cases marks mark with ⟨-, hpush⟩ | ⟨front, a, b, -, -, hpush⟩ <;> simp [hpush]

theorem merge_eq_nil {marks : List Mark} (h : merge marks = []) : marks = [] := by
  rcases List.eq_nil_or_concat' marks with rfl | ⟨front, last, rfl⟩
  · rfl
  · rw [merge_concat] at h
    exact (push_ne_nil _ _ h).elim

theorem merge_of_isChain {marks : List Mark} (h : marks.IsChain Apart) : merge marks = marks := by
  induction marks using List.reverseRecOn with
  | nil => rfl
  | append_singleton front last ih =>
    obtain ⟨hfront, -, hlast⟩ := List.isChain_append.mp h
    rw [merge_concat, ih hfront, push_of_apart fun other ho => hlast other ho last (by simp)]

theorem push_push_text (marks : List Mark) (a b : String) :
    push (push marks (.text a)) (.text b) = push marks (.text (a ++ b)) := by
  rcases push_cases marks (.text a) with ⟨hlast, hpush⟩ | ⟨front, c, d, rfl, hd, hpush⟩
  · have hlast' : ∀ last ∈ marks.getLast?, Apart last (.text (a ++ b)) := by
      intro last hl
      have := hlast last hl
      cases last <;> trivial
    rw [hpush, push_of_apart hlast', push_append marks (by simp)]
    rfl
  · obtain rfl : a = d := by simpa using hd
    rw [hpush, push_append front (by simp), push_append front (by simp)]
    simp [push, String.append_assoc]

/-- It does not matter which texts are put together first. -/
theorem merge_append_merge (front marks : List Mark) :
    merge (front ++ merge marks) = merge (front ++ marks) := by
  induction marks using List.reverseRecOn with
  | nil => rfl
  | append_singleton marks last ih =>
    rw [← List.append_assoc, merge_concat, merge_concat, ← ih]
    rcases push_cases (merge marks) last with ⟨-, hpush⟩ | ⟨others, a, b, hothers, rfl, hpush⟩
    · rw [hpush, ← List.append_assoc, merge_concat]
    · rw [hpush, hothers, ← List.append_assoc, ← List.append_assoc, merge_concat, merge_concat,
        push_push_text]

theorem merge_eq_append {marks front back : List Mark} (h : merge marks = front ++ back) :
    ∃ a b, marks = a ++ b ∧ merge a = front ∧ merge b = back := by
  induction marks using List.reverseRecOn generalizing back with
  | nil =>
    obtain ⟨rfl, rfl⟩ := List.append_eq_nil_iff.mp h.symm
    exact ⟨[], [], rfl, rfl, rfl⟩
  | append_singleton marks last ih =>
    rcases List.eq_nil_or_concat' back with rfl | ⟨back, final, rfl⟩
    · exact ⟨marks ++ [last], [], by simp, by simpa using h, rfl⟩
    · rw [merge_concat, ← List.append_assoc] at h
      rcases push_cases (merge marks) last with ⟨hlast, hpush⟩ | ⟨others, a, b, hothers, rfl, hpush⟩
      · rw [hpush] at h
        obtain ⟨hmarks, hfinal⟩ := List.append_inj' h rfl
        obtain rfl : last = final := by simpa using hfinal
        obtain ⟨front', back', rfl, rfl, rfl⟩ := ih hmarks
        refine ⟨front', back' ++ [last], by simp, rfl, ?_⟩
        rw [merge_concat, push_of_apart fun other ho => hlast other ?_]
        rw [hmarks]
        exact List.mem_getLast?_append_of_mem_getLast? ho
      · rw [hpush] at h
        obtain ⟨hmarks, hfinal⟩ := List.append_inj' h rfl
        obtain rfl : .text (a ++ b) = final := by simpa using hfinal
        have hmerge : merge marks = front ++ (back ++ [.text a]) := by simp [hothers, hmarks]
        obtain ⟨front', back', rfl, rfl, hback⟩ := ih hmerge
        refine ⟨front', back' ++ [.text b], by simp, rfl, ?_⟩
        rw [merge_concat, hback, push_append back (by simp)]
        rfl

theorem merge_eq_singleton {marks : List Mark} {mark : Mark} (h : merge marks = [mark])
    (hm : mark.IsTag) : marks = [mark] := by
  rcases List.eq_nil_or_concat' marks with rfl | ⟨front, last, rfl⟩
  · cases h
  · rw [merge_concat, ← List.nil_append [mark]] at h
    rcases push_cases (merge front) last with ⟨-, hpush⟩ | ⟨others, a, b, -, -, hpush⟩
    · obtain ⟨hfront, hlast⟩ := List.append_inj' (hpush.symm.trans h) rfl
      rw [merge_eq_nil hfront, hlast, List.nil_append]
    · obtain ⟨-, hlast⟩ := List.append_inj' (hpush.symm.trans h) rfl
      exact (hm (a ++ b) (by simpa using hlast.symm)).elim

end Mark

-- ---------------------------------------------------------------------------
-- Neighbours
-- ---------------------------------------------------------------------------

namespace Node

mutual

theorem separated_of_marks (node : Node) (h : node.marks.IsChain Mark.Apart) : node.Separated := by
  cases node with
  | literal text => trivial
  | output path filters offset => trivial
  | loop var source body onEmpty =>
    obtain ⟨hbody, hbranch, -⟩ := List.isChain_append.mp (List.isChain_append.mp h.tail).1
    exact ⟨separatedBody_of_marks body hbody, separatedBranch_of_marks onEmpty hbranch⟩
  | choice condition negated body otherwise =>
    obtain ⟨hbody, hbranch, -⟩ := List.isChain_append.mp (List.isChain_append.mp h.tail).1
    exact ⟨separatedBody_of_marks body hbody, separatedBranch_of_marks otherwise hbranch⟩

/-- Two literals in one body leave neighbouring marks, for all that stands between nodes of
different bodies leaves marks of its own. -/
theorem separatedBody_of_marks (body : List Node) (h : (marksOf body).IsChain Mark.Apart) :
    SeparatedBody body := by
  cases body with
  | nil => exact ⟨List.isChain_nil, trivial⟩
  | cons node nodes =>
    obtain ⟨hnode, hnodes, hborder⟩ := List.isChain_append.mp h
    obtain ⟨hchain, hall⟩ := separatedBody_of_marks nodes hnodes
    refine ⟨List.isChain_cons.mpr ⟨fun next hn => ?_, hchain⟩, separated_of_marks node hnode, hall⟩
    cases nodes with
    | nil => cases hn
    | cons other nodes =>
      obtain rfl : other = next := by simpa using hn
      cases node with
      | literal front =>
        cases other with
        | literal back =>
          exact hborder (.text front) (by simp [marks]) (.text back) (by simp [marksOf, marks])
        | _ => trivial
      | _ => trivial

theorem separatedBranch_of_marks {tag : Tag} (branch : Option (List Node))
    (h : (marksOfBranch tag branch).IsChain Mark.Apart) : SeparatedBranch branch := by
  cases branch with
  | none => trivial
  | some body => exact separatedBody_of_marks body h.tail

end

theorem apart_marks {a b : Node} (h : Apart a b) :
    ∀ last ∈ a.marks.getLast?, ∀ first ∈ b.marks.head?, Mark.Apart last first := by
  intro last hl first hf
  cases a with
  | literal front =>
    cases b with
    | literal back => exact h.elim
    | _ =>
      cases hf
      exact Mark.IsTag.apart_right (by simp) last
  | output path filters offset =>
    cases hl
    trivial
  | loop var source body onEmpty =>
    rw [marks, ← List.cons_append, List.getLast?_concat] at hl
    cases hl
    trivial
  | choice condition negated body otherwise =>
    rw [marks, ← List.cons_append, List.getLast?_concat] at hl
    cases hl
    trivial

theorem marks_ne_nil (node : Node) : node.marks ≠ [] := by
  cases node <;> simp [marks]

mutual

theorem isChain_marks (node : Node) (h : node.Separated) : node.marks.IsChain Mark.Apart := by
  have hclosing : ∀ (tag : Tag) {marks : List Mark}, marks.IsChain Mark.Apart →
      (marks ++ [Mark.closing tag]).IsChain Mark.Apart := by
    intro tag marks hmarks
    refine List.isChain_append.mpr ⟨hmarks, List.isChain_singleton _, ?_⟩
    rintro last _ _ ⟨⟩
    exact Mark.IsTag.apart_right (by simp) last
  cases node with
  | literal text => exact List.isChain_singleton _
  | output path filters offset => exact List.isChain_singleton _
  | loop var source body onEmpty =>
    refine List.isChain_cons.mpr ⟨fun _ _ => trivial, hclosing _ ?_⟩
    exact isChain_marksOfBranch .empty onEmpty h.2 (isChain_marksOf body h.1)
  | choice condition negated body otherwise =>
    refine List.isChain_cons.mpr ⟨fun _ _ => trivial, hclosing _ ?_⟩
    exact isChain_marksOfBranch .otherwise otherwise h.2 (isChain_marksOf body h.1)

theorem isChain_marksOf (body : List Node) (h : SeparatedBody body) :
    (marksOf body).IsChain Mark.Apart := by
  cases body with
  | nil => exact List.isChain_nil
  | cons node nodes =>
    obtain ⟨hchain, hnode, hnodes⟩ := h
    obtain ⟨hnext, htail⟩ := List.isChain_cons.mp hchain
    refine List.isChain_append.mpr
      ⟨isChain_marks node hnode, isChain_marksOf nodes ⟨htail, hnodes⟩, fun last hl first hf => ?_⟩
    cases nodes with
    | nil => cases hf
    | cons next nodes =>
      refine apart_marks (hnext next (by simp)) last hl first ?_
      rwa [marksOf, List.head?_append_of_ne_nil _ (marks_ne_nil next)] at hf

theorem isChain_marksOfBranch {front : List Mark} (tag : Tag) (branch : Option (List Node))
    (h : SeparatedBranch branch) (hfront : front.IsChain Mark.Apart) :
    (front ++ marksOfBranch tag branch).IsChain Mark.Apart := by
  cases branch with
  | none => simpa [marksOfBranch] using hfront
  | some body =>
    refine List.isChain_append.mpr
      ⟨hfront, List.isChain_cons.mpr ⟨fun _ _ => trivial, isChain_marksOf body h⟩, ?_⟩
    rintro last _ _ ⟨⟩
    exact Mark.IsTag.apart_right (by simp) last

end

end Node

end Stencil
