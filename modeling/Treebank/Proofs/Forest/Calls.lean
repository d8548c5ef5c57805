import Treebank.Proofs.Forest.Ancestors
import Treebank.Proofs.Forest.Grafting

/-!
# Calls of the primitives

However the primitives are called one after another, every node stands among the children of its parent
once and among those of no other node, also after calls that are refused half-way. Where no call puts a
node under itself or under one below it, no way up leads back to where it has been.
-/

namespace Treebank.Forest

variable {f g : Forest} {c n p i : Nat} {cs : List Nat}

/-- A call of a primitive on nodes of a forest. -/
inductive Call where
  | make (label : String) (children : List NodeId)
  | add (parent child : NodeId) (slot : Option Int)
  | remove (parent child : NodeId)
  | detach (n : NodeId)
  | replace (n : NodeId) (others : List NodeId)
  | copy (n : NodeId)
  | relabel (n : NodeId) (label : String)

namespace Call

/-- The nodes that a call is about. -/
def nodes : Call → List NodeId
  | make _ children => children
  | add parent child _ => [parent, child]
  | remove parent child => [parent, child]
  | detach n => [n]
  | replace n others => n :: others
  | copy n => [n]
  | relabel n _ => [n]

/-- The forest after a call, also after one that is refused. Where a tree has no end, no copy of it is
ever finished, and what has been made of it is out of reach. -/
def after (f : Forest) : Call → Forest
  | make label children => (f.runEdit (newNode label children)).2
  | add parent child slot => (f.runEdit (addChild parent child slot)).2
  | remove parent child => (f.runEdit (removeChild parent child)).2
  | detach n => (f.runEdit (Forest.detach n)).2
  | replace n others => (f.runEdit (replaceWith n others)).2
  | copy n => if f.endlessBelow n then f else (f.deepCopy n).2
  | relabel n label => f.setLabel n label

/-- The call puts a node under itself or under one below it. A replacement does so when it comes to a
topmost node that stands over the slot, after it has put in the nodes before that one. -/
inductive Loops (f : Forest) : Call → Prop where
  | add {p c : NodeId} {slot : Option Int} {g : Forest} : f.Covers c p →
      f.runEdit (addChild p c slot) = (.ok (), g) → Loops f (.add p c slot)
  | replace {n p c : NodeId} {before more : List NodeId} {g : Forest} :
      f.runEdit (replaceWith n before) = (.ok p, g) → g.parent? c = none → g.Covers c p →
      Loops f (.replace n (before ++ c :: more))

end Call

/-- The forest comes about by calls from the one without nodes; each is about nodes that there are, and
passes a test where it is made. -/
inductive Reached (test : Forest → Call → Prop) : Forest → Prop where
  | empty : Reached test empty
  | call {f : Forest} (call : Call) : Reached test f → (∀ n ∈ call.nodes, n < f.size) →
      test f call → Reached test (call.after f)

/-! ## What a call leaves -/

theorem Linked.after (h : f.Linked) {call : Call} (hnodes : ∀ n ∈ call.nodes, n < f.size) :
    (call.after f).Linked := by
  cases call with
  | make label children =>
      exact (concludes_newNode linked_lastsLinking (h.alloc label) hnodes).after
  | add p c slot =>
      have hadd := h.concludes_addChild (hnodes c (by simp [Call.nodes]))
        (hnodes p (by simp [Call.nodes])) slot
      exact (hadd.mono (fun _ _ h => h.linked) fun _ _ h => h.linked).after
  | remove p c =>
      have hremove := h.concludes_removeChild p c
      exact (hremove.mono (fun _ _ h => h.1.linked) fun _ _ h => h.linked).after
  | detach n =>
      have hdetach := h.concludes_detach n
      exact (hdetach.mono (fun _ _ h => h.1.linked) fun _ _ h => h.linked).after
  | replace n others =>
      have hreplace := h.concludes_replaceWith n others fun c hc =>
        hnodes c (List.mem_cons_of_mem n hc)
      exact (hreplace.mono (fun _ _ h => h.linked) fun _ _ h => h.linked).after
  | copy n =>
      rw [Call.after]
      split
      · exact h
      · exact holds_deepCopy linked_lastsCrowning h n
  | relabel n label => exact h.setLabel n label

theorem Reached.linked {test : Forest → Call → Prop} (h : Reached test f) : f.Linked := by
  induction h with
  | empty => exact wellFormed_empty.linked
  | call _ _ hnodes _ ih => exact ih.after hnodes

/-! ## Calls that make no loop -/

theorem runEdit_addChildren_of_ok (h : f.runEdit (addChild p c (some i)) = (.ok (), g))
    (cs : List Nat) :
    f.runEdit (addChildren p i (c :: cs)) = g.runEdit (addChildren p (i + 1) cs) := by
  simp only [runEdit, addChildren] at h ⊢
  rw [run_bind, h]

theorem runEdit_addChildren_of_error {e : Error}
    (h : f.runEdit (addChild p c (some i)) = (.error e, g)) (cs : List Nat) :
    f.runEdit (addChildren p i (c :: cs)) = (.error e, g) := by
  simp only [runEdit, addChildren] at h ⊢
  rw [run_bind, h]

theorem runEdit_replaceWith_of_top (h : f.parent? n = none) (others : List Nat) :
    f.runEdit (replaceWith n others) = (.error (.replacesRoot (f.label n)), f) := by
  rw [runEdit, replaceWith, run_get_bind]
  simp only [h]
  rfl

theorem runEdit_replaceWith (hp : f.parent? n = some p)
    (h : f.runEdit (removeChild p n) = (.ok i, g)) (others : List Nat) :
    f.runEdit (replaceWith n others) =
      ((g.runEdit (addChildren p i others)).1.map fun _ => p,
        (g.runEdit (addChildren p i others)).2) := by
  rw [runEdit] at h ⊢
  rw [replaceWith, run_get_bind]
  simp only [hp]
  rw [run_bind, h]
  refine (run_bind ..).trans ?_
  rw [runEdit]
  rcases (addChildren p i others).run.run g with ⟨_ | _, _⟩ <;> rfl

/-- Nodes that come under a node one after the other leave the forest well formed, unless one of them
covers that node when it comes. -/
theorem WellFormed.addChildren (h : f.WellFormed) (hp : p < f.size) (hcs : ∀ c ∈ cs, c < f.size)
    (i : Nat) (hfree : ∀ before c more g, cs = before ++ c :: more →
      f.runEdit (addChildren p i before) = (.ok (), g) → g.parent? c = none → ¬g.Covers c p) :
    (f.runEdit (Forest.addChildren p i cs)).2.WellFormed := by
  induction cs generalizing f i with
  | nil => exact h
  | cons c cs ih =>
      obtain ⟨hc, hcs⟩ := List.forall_mem_cons.mp hcs
      have hadd := concludes_addChild f p c (some i)
      rcases hrun : f.runEdit (addChild p c (some i)) with ⟨e | ⟨⟩, g⟩
      · rw [runEdit_addChildren_of_error hrun]
        obtain rfl := hadd.of_error hrun
        exact h
      · rw [runEdit_addChildren_of_ok hrun]
        obtain ⟨htop, j, hj, hg⟩ := hadd.of_ok hrun
        have hcov : ¬f.Covers c p := hfree [] c cs f rfl rfl htop
        have hsize : g.size = f.size := by rw [hg, size_link]
        refine ih (hg ▸ h.link hc hp htop hcov hj) (hsize ▸ hp) (fun d hd => hsize ▸ hcs d hd)
          (i + 1) ?_
        rintro before d more g' rfl hbefore
        exact hfree (c :: before) d more g' rfl
          ((runEdit_addChildren_of_ok hrun before).trans hbefore)

theorem WellFormed.after (h : f.WellFormed) {call : Call} (hnodes : ∀ n ∈ call.nodes, n < f.size)
    (hloops : ¬call.Loops f) : (call.after f).WellFormed := by
  cases call with
  | make label children =>
      exact (concludes_newNode wellFormed_lastsLinking (h.alloc label) hnodes).after
  | add p c slot =>
      have hadd := concludes_addChild f p c slot
      rw [Call.after]
      rcases hrun : f.runEdit (addChild p c slot) with ⟨e | ⟨⟩, g⟩
      · obtain rfl := hadd.of_error hrun
        exact h
      · obtain ⟨htop, i, hi, rfl⟩ := hadd.of_ok hrun
        exact h.link (hnodes c (by simp [Call.nodes])) (hnodes p (by simp [Call.nodes])) htop
          (fun hcov => hloops (.add hcov hrun)) hi
  | remove p c =>
      refine ((concludes_removeChild f p c).mono ?_ ?_).after
      · rintro _ _ ⟨hc, rfl⟩
        exact h.unlink (h.mem_children.mp hc)
      · rintro _ _ rfl
        exact h
  | detach n =>
      refine ((concludes_detach f n).mono ?_ ?_).after
      · rintro _ _ (⟨_, rfl⟩ | ⟨p, hp, _, rfl⟩)
        · exact h
        · exact h.unlink hp
      · rintro _ _ rfl
        exact h
  | replace n others =>
      rw [Call.after]
      cases hp : f.parent? n with
      | none =>
          rw [runEdit_replaceWith_of_top hp]
          exact h
      | some p =>
          obtain ⟨i, g, hremove, _, rfl⟩ := achieves_removeChild h hp
          have hput := (h.unlink hp).addChildren (by simpa using h.parent_lt_size hp)
            (fun c hc => by simpa using hnodes c (List.mem_cons_of_mem n hc)) i
            fun before c more g hothers hbefore htop hcov => hloops ?_
          · rw [runEdit_replaceWith hp hremove]
            exact hput
          · subst hothers
            refine .replace ?_ htop hcov
            rw [runEdit_replaceWith hp hremove, hbefore]
            rfl
  | copy n =>
      rw [Call.after]
      split
      · exact h
      · exact holds_deepCopy wellFormed_lastsCrowning h n
  | relabel n label => exact h.setLabel n label

theorem Reached.wellFormed (h : Reached (fun f call => ¬call.Loops f) f) : f.WellFormed := by
  induction h with
  | empty => exact wellFormed_empty
  | call _ _ hnodes hloops ih => exact ih.after hnodes hloops

/-! ## What holds however they are called -/

/-- Whatever calls are made, each node stands once among the children of its parent and nowhere else,
so that no two nodes share a child. Where none of them makes a loop, every way up ends, and no node is
above its own parent. A node that cannot be put in, taken out or cut off leaves all as it was, and so
does a topmost one that cannot be replaced. -/
theorem primitives_keep_links :
    (∀ f : Forest, Reached (fun _ _ => True) f →
      (∀ p c : NodeId, (f.children p).count c = if f.parent? c = some p then 1 else 0) ∧
        (∀ p, (f.children p).Nodup) ∧
          ∀ c p q, c ∈ f.children p → c ∈ f.children q → p = q) ∧
    (∀ f : Forest, Reached (fun f call => ¬call.Loops f) f →
      (∀ n, f.Grounded n) ∧ ∀ n p, f.parent? n = some p → ¬f.Covers n p) ∧
    (∀ (f g : Forest) (p c : NodeId) (slot : Option Int) (e : Error),
      f.runEdit (addChild p c slot) = (.error e, g) → g = f) ∧
    (∀ (f g : Forest) (p c : NodeId) (e : Error),
      f.runEdit (removeChild p c) = (.error e, g) → g = f) ∧
    (∀ (f g : Forest) (n : NodeId) (e : Error), f.runEdit (detach n) = (.error e, g) → g = f) ∧
    ∀ (f : Forest) (n : NodeId) (others : List NodeId), f.parent? n = none →
      f.runEdit (replaceWith n others) = (.error (.replacesRoot (f.label n)), f) := by
  refine ⟨fun f h => ⟨h.linked.count_children, h.linked.nodup_children, ?_⟩, fun f h => ?_,
    fun f g p c slot e h => ?_, fun f g p c e h => ?_, fun f g n e h => ?_,
    fun f n others h => runEdit_replaceWith_of_top h others⟩
  · intro c p q hp hq
    have hparent := (h.linked.mem_children.mp hp).symm.trans (h.linked.mem_children.mp hq)
    exact Option.some.inj hparent
  · have hgrounded := h.wellFormed.grounded
    exact ⟨hgrounded, fun n p hp => (hgrounded n).not_covers hp⟩
  · exact (concludes_addChild f p c slot).of_error h
  · exact (concludes_removeChild f p c).of_error h
  · exact (concludes_detach f n).of_error h

/-- The forest after calls that are made one after the other. -/
def callEach (calls : List Call) : Forest := calls.foldl Call.after empty

/-- A node is replaced by itself twice, which is refused when it has got its slot back, and then copied
with the node above it; a node that has been cut off is put under another one without a loop. -/
theorem primitives_keep_links_of_refused_replacement :
    (let f := callEach [.make "S" [], .make "NP" [], .add 0 1 none, .replace 1 [1, 1], .copy 0]
     f.children 0 = [1] ∧ f.children 3 = [2] ∧ (f.children 0).count 1 = 1) ∧
    (let f := callEach [.make "NP" [], .make "S" [0], .detach 0, .make "VP" [], .add 2 0 (some 0)]
     f.children 2 = [0] ∧ ¬f.Covers 0 2) ∧
    ((callEach [.make "S" []]).runEdit (addChild 0 0 (some 1))).2 = callEach [.make "S" []] ∧
    ((callEach [.make "S" []]).runEdit (replaceWith 0 [])).2 = callEach [.make "S" []] := by
  obtain ⟨hlinked, hgrounded, hadd, _, _, hreplace⟩ := primitives_keep_links
  refine ⟨⟨by decide, by decide, ?_⟩, ⟨by decide, ?_⟩, ?_, ?_⟩
  · refine ((hlinked _ ?_).1 0 1).trans (if_pos (by decide))
    have hmade : Reached (fun _ _ => True) (callEach [.make "S" [], .make "NP" []]) :=
      .call (.make "NP" []) (.call (.make "S" []) .empty (by decide) trivial) (by decide) trivial
    exact .call (.copy 0) (.call (.replace 1 [1, 1]) (.call (.add 0 1 none) hmade (by decide) trivial)
      (by decide) trivial) (by decide) trivial
  · refine (hgrounded _ ?_).2 0 2 (by decide)
    have hmade : Reached (fun f call => ¬call.Loops f) (callEach [.make "NP" [], .make "S" [0]]) :=
      .call (.make "S" [0]) (.call (.make "NP" []) .empty (by decide) nofun) (by decide) nofun
    refine .call (.add 2 0 (some 0)) (.call (.make "VP" [])
      (.call (.detach 0) hmade (by decide) nofun) (by decide) nofun) (by decide) ?_
    rintro ⟨hcov, _⟩
    exact absurd (hcov.of_top (by decide)) (by decide)
  · exact hadd _ _ 0 0 (some 1) (.slotOutOfRange 1 "S") (by decide)
  · rw [hreplace _ 0 [] (by decide)]

end Treebank.Forest
