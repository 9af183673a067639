import Tidymark.Engine

/-!
# The order of rules

Rules registered one after the other stand in the order of one stable sort of
all of them by falling priority.  A list of falling priorities is determined
by its rules of each priority, and registering a rule puts it behind all that
have its own.
-/

namespace Tidymark

namespace Rule

/-- Whether a rule may stand before another. -/
def precedes (a b : Rule) : Bool := decide (b.priority ≤ a.priority)

def ofPriority (p : Int) (rules : List Rule) : List Rule := rules.filter (·.priority == p)

theorem ofPriority_append (p : Int) (rs ss : List Rule) :
    ofPriority p (rs ++ ss) = ofPriority p rs ++ ofPriority p ss :=
  List.filter_append rs ss

theorem ofPriority_cons_self (r : Rule) (rules : List Rule) :
    ofPriority r.priority (r :: rules) = r :: ofPriority r.priority rules :=
  List.filter_cons_of_pos (by simp)

theorem ofPriority_cons_of_ne {p : Int} {r : Rule} (h : r.priority ≠ p) (rules : List Rule) :
    ofPriority p (r :: rules) = ofPriority p rules :=
  List.filter_cons_of_neg (by simpa using h)

theorem mem_ofPriority {p : Int} {r : Rule} {rules : List Rule} :
    r ∈ ofPriority p rules ↔ r ∈ rules ∧ r.priority = p := by
  simp [ofPriority]

/-- Each rule has at least the priority of those behind it. -/
def Falling (rules : List Rule) : Prop := rules.Pairwise fun a b => b.priority ≤ a.priority

theorem Falling.priority_le_head {r s : Rule} {rules : List Rule} (h : Falling (r :: rules))
    (hs : s ∈ r :: rules) : s.priority ≤ r.priority := by
  rcases List.mem_cons.mp hs with rfl | hs
  · exact Int.le_refl _
  · exact (List.pairwise_cons.mp h).1 s hs

theorem Falling.head_le_of_ofPriority_eq {r s : Rule} {rs ss : List Rule}
    (hss : Falling (s :: ss)) (h : ∀ p, ofPriority p (r :: rs) = ofPriority p (s :: ss)) :
    r.priority ≤ s.priority := by
  have hr : r ∈ ofPriority r.priority (s :: ss) := by
    rw [← h, ofPriority_cons_self]
    exact List.mem_cons_self
  exact hss.priority_le_head (mem_ofPriority.mp hr).1

/-- Lists of falling priorities that have the same rules of each priority are the same. -/
theorem Falling.eq_of_ofPriority_eq {rs ss : List Rule} (hrs : Falling rs) (hss : Falling ss)
    (h : ∀ p, ofPriority p rs = ofPriority p ss) : rs = ss := by
  induction rs generalizing ss with
  | nil =>
      cases ss with
      | nil => rfl
      | cons s ss =>
          have hs := h s.priority
          rw [ofPriority_cons_self] at hs
          cases hs
  | cons r rs ih =>
      cases ss with
      | nil =>
          have hr := h r.priority
          rw [ofPriority_cons_self] at hr
          cases hr
      | cons s ss =>
          have hpriority : r.priority = s.priority :=
            Int.le_antisymm (hss.head_le_of_ofPriority_eq h)
              (hrs.head_le_of_ofPriority_eq fun p => (h p).symm)
          have hheads := h r.priority
          rw [ofPriority_cons_self, hpriority, ofPriority_cons_self, List.cons.injEq] at hheads
          obtain ⟨rfl, htails⟩ := hheads
          have hrest : ∀ p, ofPriority p rs = ofPriority p ss := by
            intro p
            by_cases hp : r.priority = p
            · subst hp
              exact htails
            · have hall := h p
              rwa [ofPriority_cons_of_ne hp, ofPriority_cons_of_ne hp] at hall
          rw [ih (List.pairwise_cons.mp hrs).2 (List.pairwise_cons.mp hss).2 hrest]

theorem precedes_trans (a b c : Rule) (hab : a.precedes b = true) (hbc : b.precedes c = true) :
    a.precedes c = true := by
  simp only [precedes, decide_eq_true_eq] at *
  omega

theorem precedes_total (a b : Rule) : (a.precedes b || b.precedes a) = true := by
  simp only [precedes, Bool.or_eq_true, decide_eq_true_eq]
  omega

theorem falling_mergeSort (rules : List Rule) : Falling (rules.mergeSort precedes) :=
  (List.pairwise_mergeSort precedes_trans precedes_total rules).imp fun h => by
    simpa [precedes] using h

/-- Sorting keeps the order of rules of one priority. -/
theorem ofPriority_mergeSort (p : Int) (rules : List Rule) :
    ofPriority p (rules.mergeSort precedes) = ofPriority p rules := by
  have hpairwise : (ofPriority p rules).Pairwise fun a b => a.precedes b = true := by
    refine List.pairwise_of_forall_mem_list fun a ha b hb => ?_
    have hpriority := (mem_ofPriority.mp ha).2.trans (mem_ofPriority.mp hb).2.symm
    simp [precedes, hpriority]
  have hsorted : (ofPriority p rules).Sublist (rules.mergeSort precedes) :=
    List.sublist_mergeSort precedes_trans precedes_total hpairwise List.filter_sublist
  have hsublist : (ofPriority p rules).Sublist (ofPriority p (rules.mergeSort precedes)) := by
    simpa only [ofPriority, List.filter_filter, Bool.and_self] using
      hsorted.filter (·.priority == p)
  have hperm : (ofPriority p (rules.mergeSort precedes)).Perm (ofPriority p rules) :=
    (List.mergeSort_perm rules precedes).filter _
  exact (hsublist.eq_of_length hperm.length_eq.symm).symm

end Rule

namespace Engine

open Rule

/-- Behind its equals is where a rule is put. -/
theorem ofPriority_insertRule {rule : Rule} {rules : List Rule} (h : Falling rules) (p : Int) :
    ofPriority p (insertRule rule rules) = ofPriority p (rules ++ [rule]) := by
  induction rules with
  | nil => rfl
  | cons other rest ih =>
      have hrest := ih (List.pairwise_cons.mp h).2
      unfold insertRule
      split
      · rw [List.cons_append]
        by_cases hp : other.priority = p
        · subst hp
          rw [ofPriority_cons_self, ofPriority_cons_self, hrest]
        · rw [ofPriority_cons_of_ne hp, ofPriority_cons_of_ne hp, hrest]
      · next hlt =>
          rw [ofPriority_append]
          by_cases hp : rule.priority = p
          · subst hp
            have hnone : ofPriority rule.priority (other :: rest) = [] := by
              refine List.filter_eq_nil_iff.mpr fun r hr => ?_
              have hle := h.priority_le_head hr
              simp only [beq_iff_eq]
              omega
            rw [ofPriority_cons_self, hnone, List.nil_append, ofPriority_cons_self]
            rfl
          · rw [ofPriority_cons_of_ne hp, ofPriority_cons_of_ne hp]
            exact (List.append_nil _).symm

theorem ofPriority_register (engine : Engine) (rules : List Rule) (p : Int) :
    ofPriority p (rules.foldl register engine).rules = ofPriority p (engine.rules ++ rules) := by
  induction rules generalizing engine with
  | nil => rw [List.foldl_nil, List.append_nil]
  | cons rule rest ih =>
      have hregister : ofPriority p (engine.register rule).rules =
          ofPriority p (engine.rules ++ [rule]) :=
        ofPriority_insertRule engine.sorted p
      rw [List.foldl_cons, ih, ofPriority_append, hregister, ← ofPriority_append,
        List.append_assoc, List.singleton_append]

/-- Registering rules one after the other sorts them, together with those registered before, by
falling priority and keeps the order of equals. -/
theorem rules_register (engine : Engine) (rules : List Rule) :
    (rules.foldl register engine).rules = (engine.rules ++ rules).mergeSort precedes := by
  refine Falling.eq_of_ofPriority_eq (rules.foldl register engine).sorted
    (falling_mergeSort _) fun p => ?_
  rw [ofPriority_register, ofPriority_mergeSort]

end Engine

end Tidymark
