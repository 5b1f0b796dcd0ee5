import BranchDistance.Proofs.Evaluate.Congruence
import BranchDistance.Proofs.Outcome
import BranchDistance.Proofs.Result
import BranchDistance.Target.OfExpr

/-!
# Chains of one connective

A chain of one connective becomes one condition.  Had every connective become a condition of two
parts instead (`Condition.pairwise?`), evaluations would go in the same way: they look at the
deadline once more for each connective, which does not show, and a sum that begins anew begins at
zero.

* `Setting.outcome_parts` opens one chain at the left end of another.
* `Chain.map_parts` says that the parts of a chain are its operands, each read on its own.

The chain must not continue at its right end, since sums are rounded and `a + (b + c)` may differ
from `(a + b) + c`.  Chains that are read from text never do.
-/

namespace BranchDistance

open Sql (Expr Connective)

/-! ### Operands -/

namespace Sql

namespace Expr

/-- Whether the expression itself is two others with a connective between them. -/
def isJoinedBy (op : Connective) : Expr → Bool
  | .binary _ op' _ => op' = op
  | _ => false

/-- Wherever the expression is read as a condition, no right part of a conjunction is a conjunction
without parentheses, and no right part of a disjunction such a disjunction. -/
def isLeftDeep : Expr → Bool
  | .nested inner => inner.isLeftDeep
  | .leading .not inner => inner.isLeftDeep
  | .binary left .and right => left.isLeftDeep && right.isLeftDeep && !right.isJoinedBy .and
  | .binary left .or right => left.isLeftDeep && right.isLeftDeep && !right.isJoinedBy .or
  | _ => true

/-- The operands of a chain of one connective, from left to right. -/
def operands (op : Connective) : Expr → List Expr
  | .binary left op' right =>
    if op' = op then left.operands op ++ right.operands op else [.binary left op' right]
  | e => [e]

theorem not_joined_of_ne {e : Expr} (h : ∀ left op right, e = .binary left op right → False)
    (op : Connective) : e.isJoinedBy op = false := by
  cases e with
  | binary left op' right => exact (h left op' right rfl).elim
  | _ => rfl

theorem operands_ne_nil (op : Connective) (e : Expr) : e.operands op ≠ [] := by
  fun_induction operands op e with
  | case1 left right hleft hright => exact List.append_ne_nil_of_left_ne_nil hleft _
  | case2 left op' right hne => exact List.cons_ne_nil _ _
  | case3 e hne => exact List.cons_ne_nil _ _

/-- No operand is a chain of the same connective. -/
theorem not_joined_of_mem_operands {op : Connective} {e x : Expr} (h : x ∈ e.operands op) :
    x.isJoinedBy op = false := by
  fun_induction operands op e with
  | case1 left right hleft hright => exact (List.mem_append.1 h).elim hleft hright
  | case2 left op' right hne =>
    rw [List.mem_singleton.1 h]
    exact decide_eq_false hne
  | case3 e hne =>
    rw [List.mem_singleton.1 h]
    exact not_joined_of_ne hne op

/-- A chain is written as its operands with the connective between them. -/
theorem render_operands (op : Connective) (e : Expr) :
    e.render = String.intercalate (" " ++ op.render ++ " ") ((e.operands op).map render) := by
  fun_induction operands op e with
  | case1 left right hleft hright =>
    have hne (e : Expr) : (e.operands op).map render ≠ [] := by simpa using operands_ne_nil op e
    rw [List.map_append, String.intercalate_append_of_ne_nil (hne _) (hne _), ← hleft, ← hright,
      render]
    simp only [String.append_assoc]
  | case2 left op' right hne => rw [List.map_singleton, String.intercalate_singleton]
  | case3 e hne => rw [List.map_singleton, String.intercalate_singleton]

end Expr

/-- The chains that a connective makes of some conditions, if it makes any. -/
def Connective.chain? : Connective → Option (List Condition → Condition.Chain)
  | .and => some .all
  | .or => some .any
  | _ => none

end Sql

namespace Condition

/-- The condition that an expression is if every connective joins exactly two parts. -/
def pairwise? : Expr → Except TargetError Condition
  | .nested inner => pairwise? inner
  | .binary left .and right => return .and [← pairwise? left, ← pairwise? right]
  | .binary left .or right => return .or [← pairwise? left, ← pairwise? right]
  | .leading .not inner => return .not (← pairwise? inner)
  | e => ofExpr? e

/-! ### The parts of chains -/

namespace Chain

/-- The parts that a chain adds to a chain of some connective. -/
def parts : Connective → Chain → List Condition
  | .and, chain => chain.conjuncts
  | .or, chain => chain.disjuncts
  | _, chain => [chain.condition]

/-- What is read may only be a condition that is no chain. -/
def IsSingle (result : Except TargetError Chain) : Prop :=
  ∀ chain, result = .ok chain → ∃ c, chain = single c

theorem isSingle_pure (c : Condition) : IsSingle (pure (single c)) := by
  rintro _ ⟨⟩
  exact ⟨c, rfl⟩

theorem isSingle_error (fault : TargetError) : IsSingle (.error fault) := by
  rintro _ ⟨⟩

theorem isSingle_bind {α : Type} {x : Except TargetError α} {next : α → Except TargetError Chain}
    (h : ∀ a, IsSingle (next a)) : IsSingle (x >>= next) := by
  intro chain hchain
  obtain ⟨a, -, ha⟩ := bind_eq_ok_iff.1 hchain
  exact h a chain ha

variable {op : Connective} {make : List Condition → Chain}

theorem ofExpr?_binary (h : op.chain? = some make) (left right : Expr) :
    ofExpr? (.binary left op right) =
      return make ((← ofExpr? left).parts op ++ (← ofExpr? right).parts op) := by
  cases op <;> cases h <;> rw [ofExpr?] <;> rfl

theorem ofExpr?_binary_eq_ok (h : op.chain? = some make) {left right : Expr} {chain : Chain}
    (hchain : ofExpr? (.binary left op right) = .ok chain) :
    ∃ l r, ofExpr? left = .ok l ∧ ofExpr? right = .ok r ∧
      chain = make (l.parts op ++ r.parts op) := by
  rw [ofExpr?_binary h] at hchain
  obtain ⟨l, hleft, hchain⟩ := bind_eq_ok_iff.1 hchain
  obtain ⟨r, hright, ⟨⟩⟩ := bind_eq_ok_iff.1 hchain
  exact ⟨l, r, hleft, hright, rfl⟩

theorem parts_make (h : op.chain? = some make) (cs : List Condition) : (make cs).parts op = cs := by
  cases op <;> cases h <;> rfl

/-- Only two expressions with a connective between them are read as a chain. -/
theorem isSingle_ofExpr? {e : Expr} (hand : e.isJoinedBy .and = false)
    (hor : e.isJoinedBy .or = false) : IsSingle (ofExpr? e) := by
  fun_cases ofExpr? e
  case case2 => cases hand
  case case3 => cases hor
  all_goals
    repeat first
      | exact isSingle_pure _
      | exact isSingle_error _
      | refine isSingle_bind fun _ => ?_

/-- Whatever is no chain of the connective is one part. -/
theorem parts_of_not_joined {e : Expr} {chain : Chain} (h : op.chain? = some make)
    (hchain : ofExpr? e = .ok chain) (hjoined : e.isJoinedBy op = false) :
    chain.parts op = [chain.condition] := by
  -- a chain of the other connective is one part as well
  have hother {op' : Connective} {make' : List Condition → Chain} (h' : op'.chain? = some make')
      (hjoined' : e.isJoinedBy op' = true) : chain.parts op = [chain.condition] := by
    cases e with
    | binary left op'' right =>
      obtain rfl : op'' = op' := of_decide_eq_true hjoined'
      obtain ⟨l, r, -, -, rfl⟩ := ofExpr?_binary_eq_ok h' hchain
      cases op <;> cases h <;> cases op'' <;> cases h' <;> first | rfl | cases hjoined
    | _ => cases hjoined'
  by_cases hand : e.isJoinedBy .and = true
  · exact hother rfl hand
  by_cases hor : e.isJoinedBy .or = true
  · exact hother rfl hor
  rw [Bool.not_eq_true] at hand hor
  obtain ⟨c, rfl⟩ := isSingle_ofExpr? hand hor chain hchain
  cases op <;> rfl

theorem map_parts_of_not_joined {e : Expr} (h : op.chain? = some make)
    (hjoined : e.isJoinedBy op = false) :
    (ofExpr? e).map (parts op) = [e].mapM Condition.ofExpr? := by
  rw [List.mapM_cons, List.mapM_nil, Condition.ofExpr?]
  cases hchain : ofExpr? e with
  | error fault => rfl
  | ok chain => exact congrArg Except.ok (parts_of_not_joined h hchain hjoined)

/-- The parts of a chain are its operands, each read on its own. -/
theorem map_parts (h : op.chain? = some make) (e : Expr) :
    (ofExpr? e).map (parts op) = (e.operands op).mapM Condition.ofExpr? := by
  fun_induction Sql.Expr.operands op e with
  | case1 left right hleft hright =>
    rw [ofExpr?_binary h, List.mapM_append, ← hleft, ← hright]
    cases ofExpr? left with
    | error fault => rfl
    | ok l =>
      cases ofExpr? right with
      | error fault => rfl
      | ok r => exact congrArg Except.ok (parts_make h _)
  | case2 left op' right hne => exact map_parts_of_not_joined h (decide_eq_false hne)
  | case3 e hne => exact map_parts_of_not_joined h (Expr.not_joined_of_ne hne op)

end Chain

end Condition

/-! ### Evaluating parts of parts -/

namespace Setting

variable (setting : Setting) (scope : Scope)

/-- A second look at the deadline shows nothing new. -/
theorem check_check {α : Type} (next : Run α) :
    (do setting.check; setting.check; next) = (do setting.check; next) := by
  funext p
  change (do setting.check; setting.check; next : Run α).run p = (do setting.check; next).run p
  rw [run_check_bind, run_check_bind]
  split <;> rfl

theorem conjunction_append (cs ds : List Condition) (total : Outcome) :
    setting.conjunction scope total (cs ++ ds) =
      setting.conjunction scope total cs >>= fun t => setting.conjunction scope t ds := by
  induction cs generalizing total with
  | nil => rw [List.nil_append, conjunction, pure_bind]
  | cons c cs ih =>
    rw [List.cons_append, conjunction, conjunction, bind_assoc]
    exact congrArg _ (funext fun o => ih _)

/-- A satisfied part ends a disjunction, even if it is found in the first half. -/
theorem disjunction_append (cs ds : List Condition) {best : Option Outcome}
    (hbest : (best.getD .invalid).isSatisfied = false) :
    setting.disjunction scope best (cs ++ ds) =
      setting.disjunction scope best cs >>= fun o =>
        if o.isSatisfied then pure o else setting.disjunction scope (some o) ds := by
  induction cs generalizing best with
  | nil =>
    rw [List.nil_append, disjunction, pure_bind, if_neg (Bool.eq_false_iff.1 hbest)]
    cases best with
    | some b => rfl
    | none =>
      -- nothing found counts as an invalid part
      cases ds with
      | nil => rw [disjunction, disjunction]; rfl
      | cons d ds =>
        rw [disjunction, disjunction]
        simp only [Option.getD_none, Outcome.invalid_or]
  | cons c cs ih =>
    rw [List.cons_append, disjunction, disjunction, bind_assoc]
    refine congrArg _ (funext fun o => ?_)
    by_cases ho : o.isSatisfied = true
    · rw [if_pos ho, if_pos ho, pure_bind, if_pos ho]
    · rw [if_neg ho, if_neg ho]
      refine ih ?_
      rw [Bool.not_eq_true] at ho
      cases best with
      | none => exact ho
      | some b => rw [Option.getD_some, Outcome.isSatisfied_or, ho, Bool.or_false]; exact hbest

/-- A chain at the left end of another of the same connective may be opened. -/
theorem outcome_parts {op : Connective} {make : List Condition → Condition.Chain}
    (h : op.chain? = some make) (chain : Condition.Chain) (c : Condition) :
    setting.outcome scope (make (chain.parts op ++ [c])).condition =
      setting.outcome scope (make [chain.condition, c]).condition := by
  cases op <;> cases h <;> cases chain
  case and.refl.all cs =>
    change setting.outcome scope (.and (cs ++ [c])) = setting.outcome scope (.and [.and cs, c])
    rw [outcome, outcome, conjunction, outcome, conjunction_append]
    simp only [bind_assoc, check_check, Outcome.satisfied_and]
  case or.refl.any cs =>
    change setting.outcome scope (.or (cs ++ [c])) = setting.outcome scope (.or [.or cs, c])
    rw [outcome, outcome, disjunction, outcome, disjunction_append setting scope cs [c] rfl]
    simp only [bind_assoc, check_check]
  all_goals rfl

/-- Parts that are evaluated in the same way make chains that are. -/
theorem outcome_pair {op : Connective} {make : List Condition → Condition.Chain}
    (h : op.chain? = some make) {a a' b b' : Condition}
    (ha : setting.outcome scope a = setting.outcome scope a')
    (hb : setting.outcome scope b = setting.outcome scope b') :
    setting.outcome scope (make [a, b]).condition =
      setting.outcome scope (make [a', b']).condition := by
  cases op <;> cases h
  case and.refl =>
    change setting.outcome scope (.and [a, b]) = setting.outcome scope (.and [a', b'])
    simp only [outcome, conjunction, ha, hb]
  case or.refl =>
    change setting.outcome scope (.or [a, b]) = setting.outcome scope (.or [a', b'])
    simp only [outcome, disjunction, ha, hb]

end Setting

/-! ### Chains in two ways -/

namespace Condition

namespace Chain

/-- Whenever an expression is read as a chain, it is read pairwise as well, and both are evaluated
in the same way. -/
def ReadsAlike (e : Expr) : Prop :=
  ∀ chain, ofExpr? e = .ok chain → ∃ m, pairwise? e = .ok m ∧ ∀ (setting : Setting) (scope : Scope),
    setting.outcome scope chain.condition = setting.outcome scope m

theorem ReadsAlike.binary {op : Connective} {make : List Condition → Chain}
    (h : op.chain? = some make) {left right : Expr} (hleft : ReadsAlike left)
    (hright : ReadsAlike right) (hjoined : right.isJoinedBy op = false) :
    ReadsAlike (.binary left op right) := by
  intro chain hchain
  obtain ⟨l, r, hl, hr, rfl⟩ := ofExpr?_binary_eq_ok h hchain
  obtain ⟨m, hm, hlm⟩ := hleft l hl
  obtain ⟨n, hn, hrn⟩ := hright r hr
  refine ⟨(make [m, n]).condition, ?_, fun setting scope => ?_⟩
  · cases op <;> cases h <;> rw [pairwise?, hm, hn] <;> rfl
  · rw [parts_of_not_joined h hr hjoined, setting.outcome_parts scope h]
    exact setting.outcome_pair scope h (hlm setting scope) (hrn setting scope)

theorem readsAlike (e : Expr) (hdeep : e.isLeftDeep = true) : ReadsAlike e := by
  fun_induction pairwise? e with
  | case1 inner ih =>
    intro chain hchain
    rw [ofExpr?] at hchain
    obtain ⟨c, hinner, ⟨⟩⟩ := bind_eq_ok_iff.1 hchain
    rw [pairwise?]
    exact ih hdeep c hinner
  | case2 left right ihl ihr =>
    rw [Expr.isLeftDeep, Bool.and_eq_true, Bool.and_eq_true, Bool.not_eq_true'] at hdeep
    exact .binary rfl (ihl hdeep.1.1) (ihr hdeep.1.2) hdeep.2
  | case3 left right ihl ihr =>
    rw [Expr.isLeftDeep, Bool.and_eq_true, Bool.and_eq_true, Bool.not_eq_true'] at hdeep
    exact .binary rfl (ihl hdeep.1.1) (ihr hdeep.1.2) hdeep.2
  | case4 inner ih =>
    intro chain hchain
    rw [ofExpr?] at hchain
    obtain ⟨c, hinner, ⟨⟩⟩ := bind_eq_ok_iff.1 hchain
    obtain ⟨m, hm, heq⟩ := ih hdeep c hinner
    refine ⟨.not m, by rw [pairwise?, hm]; rfl, fun setting scope => ?_⟩
    change setting.outcome scope (.not c.condition) = _
    rw [Setting.outcome, Setting.outcome, heq]
  | case5 e hnested hand hor hnot =>
    intro chain hchain
    refine ⟨chain.condition, ?_, fun _ _ => rfl⟩
    rw [pairwise?, Condition.ofExpr?, hchain]
    · rfl
    all_goals assumption

end Chain

/-- How the chains of a connective become conditions. -/
structure Flattens (op : Connective) (make : List Condition → Chain) (e : Expr) : Prop where
  /-- The operands are those that are written. -/
  written : e.render =
    String.intercalate (" " ++ op.render ++ " ") ((e.operands op).map Expr.render)
  maximal : ∀ x ∈ e.operands op, x.isJoinedBy op = false
  /-- Each operand is one part. -/
  parts : ∀ n, ofExpr? e = .ok n ↔ ∃ cs, n = (make cs).condition ∧
    List.Forall₂ (fun x c => ofExpr? x = .ok c) (e.operands op) cs
  /-- The fault of the leftmost operand that has one is reported. -/
  leftmost : ∀ fault, ofExpr? e = .error fault ↔ ∃ before x after,
    e.operands op = before ++ x :: after ∧ (∀ y ∈ before, ∃ c, ofExpr? y = .ok c) ∧
      ofExpr? x = .error fault

theorem ofExpr?_chain {op : Connective} {make : List Condition → Chain} (h : op.chain? = some make)
    (left right : Expr) :
    ofExpr? (.binary left op right) =
      (((Expr.binary left op right).operands op).mapM ofExpr?).map fun cs =>
        (make cs).condition := by
  rw [← Chain.map_parts h, ofExpr?, Chain.ofExpr?_binary h]
  cases Chain.ofExpr? left with
  | error fault => rfl
  | ok l =>
    cases Chain.ofExpr? right with
    | error fault => rfl
    | ok r => exact congrArg (fun cs => Except.ok (make cs).condition) (Chain.parts_make h _).symm

theorem flattens {op : Connective} {make : List Condition → Chain} (h : op.chain? = some make)
    (left right : Expr) : Flattens op make (.binary left op right) where
  written := Expr.render_operands op _
  maximal _ := Expr.not_joined_of_mem_operands
  parts n := by
    simp only [ofExpr?_chain h, ← mapM_eq_ok_iff]
    cases ((Expr.binary left op right).operands op).mapM ofExpr? with
    | error fault => exact iff_of_false nofun fun ⟨_, _, h⟩ => nomatch h
    | ok cs =>
      constructor
      · rintro ⟨⟩
        exact ⟨cs, rfl, rfl⟩
      · rintro ⟨_, rfl, ⟨⟩⟩
        rfl
  leftmost fault := by
    rw [ofExpr?_chain h, ← mapM_eq_error_iff]
    cases ((Expr.binary left op right).operands op).mapM ofExpr? with
    | error fault' => simp only [Except.map, Except.error.injEq]
    | ok cs => exact iff_of_false nofun nofun

/-- Opening the chains of an expression changes neither the outcome nor what is done to find it, for
every driver, row and deadline; the parts of a chain are its operands from left to right. -/
theorem flattened_chains :
    (∀ (e : Expr) (n : Condition), e.isLeftDeep = true → ofExpr? e = .ok n →
      ∃ m, pairwise? e = .ok m ∧ ∀ (setting : Setting) (scope : Scope),
        setting.outcome scope n = setting.outcome scope m) ∧
    ∀ (op : Connective) (make : List Condition → Chain), op.chain? = some make →
      ∀ left right, Flattens op make (.binary left op right) := by
  refine ⟨fun e n hdeep hn => ?_, fun op make h left right => flattens h left right⟩
  obtain ⟨chain, hchain, ⟨⟩⟩ := bind_eq_ok_iff.1 hn
  exact Chain.readsAlike e hdeep chain hchain

/-- `a AND b AND (c OR d OR e)` has three parts, of which the last has three. -/
theorem flattened_chains_nested :
    let name (s : String) : Expr := .path [⟨s, none⟩]
    let e : Expr := .binary (.binary (name "a") .and (name "b")) .and
      (.nested (.binary (.binary (name "c") .or (name "d")) .or (name "e")))
    let column (s : String) : Condition := hasTruth true (.column (.named none s))
    let flat : Condition :=
      .and [column "a", column "b", .or [column "c", column "d", column "e"]]
    let paired : Condition := .and [.and [column "a", column "b"],
      .or [.or [column "c", column "d"], column "e"]]
    let setting : Setting := { config := {} }
    ofExpr? e = .ok flat ∧
      setting.outcome ⟨.empty, .empty⟩ flat = setting.outcome ⟨.empty, .empty⟩ paired ∧
      Flattens .and .all e := by
  intro name e column flat paired setting
  obtain ⟨m, hm, heq⟩ := flattened_chains.1 e flat rfl rfl
  obtain rfl : paired = m := Except.ok.inj (Eq.trans (Eq.refl (pairwise? e)) hm)
  exact ⟨rfl, heq setting _, flattened_chains.2 .and .all rfl _ _⟩

end Condition

end BranchDistance
