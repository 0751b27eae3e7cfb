import Tabletop.Proofs.Formula.Normal

/-!
# Tabletop.Proofs.Formula.Chain — in a chain of clauses the last ones count

A clause either scales or shifts. A clause put on a formula takes the place of the one that did the
same job, and does not disturb the other; normalizing in between changes neither of the two facts,
though it may rewrite a scaling or a sign that an earlier clause left. So of a chain of clauses only
the last one of each job counts, and where there is none the formula keeps its own.
-/

namespace Tabletop.Formula

/-! ## The two jobs -/

/-- The clause scales; otherwise it shifts. -/
def Clause.isScale : Clause → Bool
  | .times _ | .dividedBy _ => true
  | .plus _ | .minus _ => false

/-- The clause shifts. -/
def Clause.isShift (clause : Clause) : Bool := !clause.isScale

/-- The formula's own scaling as a clause. -/
def scaleClause (f : Formula) : Clause :=
  match f.scaling with
  | .multiply => .times f.factor
  | .divide => .dividedBy f.factor

/-- The formula's own shift as a clause. -/
def shiftClause (f : Formula) : Clause :=
  match f.sign with
  | .plus => .plus f.amount
  | .minus => .minus f.amount

theorem isScale_scaleClause (f : Formula) : f.scaleClause.isScale = true := by
  rw [scaleClause]
  cases f.scaling <;> rfl

theorem isShift_shiftClause (f : Formula) : f.shiftClause.isShift = true := by
  rw [shiftClause]
  cases f.sign <;> rfl

theorem put_scaleClause (f g : Formula) :
    g.put f.scaleClause = g.scaleBy f.scaling f.factor := by
  rw [scaleClause]
  cases f.scaling <;> rfl

theorem put_shiftClause (f g : Formula) : g.put f.shiftClause = g.shiftBy f.sign f.amount := by
  rw [shiftClause]
  cases f.sign <;> rfl

/-- A clause that scales replaces the scaling and the factor. -/
theorem exists_scaleBy {a : Clause} (h : a.isScale = true) :
    ∃ scaling factor, ∀ f : Formula, f.put a = f.scaleBy scaling factor := by
  cases a with
  | times factor => exact ⟨.multiply, factor, fun _ => rfl⟩
  | dividedBy divisor => exact ⟨.divide, divisor, fun _ => rfl⟩
  | plus amount => exact absurd h Bool.false_ne_true
  | minus amount => exact absurd h Bool.false_ne_true

/-- A clause that shifts replaces the sign and the amount. -/
theorem exists_shiftBy {a : Clause} (h : a.isShift = true) :
    ∃ sign amount, ∀ f : Formula, f.put a = f.shiftBy sign amount := by
  cases a with
  | times factor => exact absurd h Bool.false_ne_true
  | dividedBy divisor => exact absurd h Bool.false_ne_true
  | plus amount => exact ⟨.plus, amount, fun _ => rfl⟩
  | minus amount => exact ⟨.minus, amount, fun _ => rfl⟩

/-! ## One clause after another -/

/-- **Clauses of the two jobs commute.** -/
theorem put_comm (f : Formula) {a b : Clause} (ha : a.isScale = true) (hb : b.isShift = true) :
    (f.put a).put b = (f.put b).put a := by
  obtain ⟨scaling, factor, hscale⟩ := exists_scaleBy ha
  obtain ⟨sign, amount, hshift⟩ := exists_shiftBy hb
  rw [hscale, hshift, hshift, hscale]
  -- The last normalizing depends only on the numbers that the two clauses brought.
  by_cases hone : max factor 1 = 1 <;> by_cases hzero : amount = 0 <;>
    simp [scaleBy, shiftBy, normalized, hone, hzero]

/-- **Of two clauses that scale, the second counts.** -/
theorem put_put_of_isScale (f : Formula) {a b : Clause} (ha : a.isScale = true)
    (hb : b.isScale = true) : (f.put a).put b = f.put b := by
  obtain ⟨scaling, factor, hfirst⟩ := exists_scaleBy ha
  obtain ⟨other, divisor, hsecond⟩ := exists_scaleBy hb
  rw [hfirst, hsecond, hsecond]
  by_cases hzero : f.amount = 0 <;> simp [scaleBy, normalized, hzero]

/-- **Of two clauses that shift, the second counts.** -/
theorem put_put_of_isShift (f : Formula) {a b : Clause} (ha : a.isShift = true)
    (hb : b.isShift = true) : (f.put a).put b = f.put b := by
  obtain ⟨sign, amount, hfirst⟩ := exists_shiftBy ha
  obtain ⟨other, more, hsecond⟩ := exists_shiftBy hb
  rw [hfirst, hsecond, hsecond]
  by_cases hone : f.factor = 1 <;> simp [shiftBy, normalized, hone]

/-! ## Chains -/

/-- The last clause of a chain that does a job, or the formula's own one. -/
def lastOf (does : Clause → Bool) (clauses : List Clause) (own : Clause) : Clause :=
  (clauses.filter does).getLast?.getD own

theorem lastOf_cons_of_pos {does : Clause → Bool} {clause : Clause} (h : does clause = true)
    (clauses : List Clause) (own : Clause) :
    lastOf does (clause :: clauses) own = lastOf does clauses clause := by
  rw [lastOf, List.filter_cons_of_pos h, List.getLast?_cons, Option.getD_some, lastOf]

theorem lastOf_cons_of_neg {does : Clause → Bool} {clause : Clause} (h : does clause = false)
    (clauses : List Clause) (own : Clause) :
    lastOf does (clause :: clauses) own = lastOf does clauses own := by
  rw [lastOf, List.filter_cons_of_neg (by rw [h]; exact Bool.false_ne_true), lastOf]

/-- **A chain on a formula that was scaled and shifted** scales it and shifts it anew, as the last
clauses of the chain say. The induction is over the chain, with the two clauses that stand so far. -/
theorem extend_put_put (base : Formula) {scale shift : Clause} (hscale : scale.isScale = true)
    (hshift : shift.isShift = true) (clauses : List Clause) :
    ((base.put scale).put shift).extend clauses =
      (base.put (lastOf Clause.isScale clauses scale)).put
        (lastOf Clause.isShift clauses shift) := by
  induction clauses generalizing scale shift with
  | nil => rfl
  | cons clause clauses ih =>
      show (((base.put scale).put shift).put clause).extend clauses = _
      cases hclause : clause.isScale with
      | true =>
          have hnot : clause.isShift = false := by rw [Clause.isShift, hclause]; rfl
          have hstep : ((base.put scale).put shift).put clause = (base.put clause).put shift := by
            rw [← put_comm _ hclause hshift, put_put_of_isScale _ hscale hclause]
          rw [hstep, ih hclause hshift, lastOf_cons_of_pos hclause, lastOf_cons_of_neg hnot]
      | false =>
          have hdoes : clause.isShift = true := by rw [Clause.isShift, hclause]; rfl
          have hstep : ((base.put scale).put shift).put clause = (base.put scale).put clause :=
            put_put_of_isShift _ hshift hdoes
          rw [hstep, ih hscale hdoes, lastOf_cons_of_neg hclause, lastOf_cons_of_pos hdoes]

/-- A normal formula is built from its own two clauses. -/
theorem Normal.eq_put_put {f : Formula} (h : f.Normal) :
    ((dice f.count f.sides).put f.scaleClause).put f.shiftClause = f := by
  rw [put_scaleClause, put_shiftClause, h.eq_build]

/-- **In a chain of clauses the last ones count.** The result is the plain throw with the last
clause that scales and the last one that shifts put on it, or the formula's own where the chain has
none. So a clause that scales may change places with one that shifts, anywhere in a chain, and
chains with the same last clauses give the same formula. -/
theorem extend_eq_last {f : Formula} (h : Reachable f) (clauses : List Clause) :
    f.extend clauses =
        ((dice f.count f.sides).put (lastOf Clause.isScale clauses f.scaleClause)).put
          (lastOf Clause.isShift clauses f.shiftClause) ∧
      (∀ before after : List Clause, ∀ a b : Clause, a.isScale = true → b.isShift = true →
        f.extend (before ++ a :: b :: after) = f.extend (before ++ b :: a :: after)) ∧
      ∀ others : List Clause,
        (others.filter Clause.isScale).getLast? = (clauses.filter Clause.isScale).getLast? →
        (others.filter Clause.isShift).getLast? = (clauses.filter Clause.isShift).getLast? →
        f.extend others = f.extend clauses := by
  have hlast : ∀ chain : List Clause, f.extend chain =
      ((dice f.count f.sides).put (lastOf Clause.isScale chain f.scaleClause)).put
        (lastOf Clause.isShift chain f.shiftClause) := by
    intro chain
    rw [← extend_put_put _ f.isScale_scaleClause f.isShift_shiftClause, h.normal.eq_put_put]
  refine ⟨hlast clauses, ?_, ?_⟩
  · intro before after a b ha hb
    rw [extend_append, extend_append]
    show (((f.extend before).put a).put b).extend after =
      (((f.extend before).put b).put a).extend after
    rw [put_comm _ ha hb]
  · intro others hscale hshift
    rw [hlast others, hlast clauses, lastOf, lastOf, hscale, hshift, lastOf, lastOf]

/-- Clauses that change nothing come last of each job and leave nothing of the others; a chain
without a shift leaves the formula's own. -/
theorem extend_eq_last_neutral :
    let f := ((dice 2 6).dividedBy 3).minus 4
    Reachable f ∧
      f.extend [.minus 9, .times 0, .dividedBy 5, .minus 0, .dividedBy 1] = dice 2 6 ∧
      f.extend [.times 0] = (dice 2 6).minus 4 ∧
      f.extend [.plus 1, .times 0, .minus 0] = f.extend [.plus 1, .minus 0, .times 0] ∧
      f.extend [.dividedBy 7, .minus 0, .plus 2, .times 3] = f.extend [.times 3, .plus 2] := by
  intro f
  have hreach : Reachable f := ((Reachable.dice _ _).put (.dividedBy 3)).put (.minus 4)
  refine ⟨hreach, (extend_eq_last hreach _).1.trans (by decide),
    (extend_eq_last hreach _).1.trans (by decide), ?_, ?_⟩
  · exact (extend_eq_last hreach []).2.1 [.plus 1] [] (.times 0) (.minus 0) rfl rfl
  · exact (extend_eq_last hreach [.times 3, .plus 2]).2.2 _ rfl rfl

end Tabletop.Formula
