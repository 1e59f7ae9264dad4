import ReleaseLog.Text.Basic

/-!
# Checks one after the other

A check lets a value through or says why it does not. A row of checks comes to a value exactly if
each of them lets one through to the next (`exceptBind_eq_ok_iff`) and no condition between them
stops the row (`guard_eq_ok_iff`).
-/

namespace ReleaseLog

variable {ε α β : Type} {check : Except ε α} {next : α → Except ε β} {result : β}

theorem exceptBind_eq_ok_iff :
    (check >>= next) = .ok result ↔ ∃ value, check = .ok value ∧ next value = .ok result := by
  cases check <;> simp [bind, Except.bind]

theorem guard_eq_ok_iff {stops : Prop} [Decidable stops] {error : ε} {later : Except ε β} :
    (if stops then throw error >>= next else later) = .ok result ↔
      ¬ stops ∧ later = .ok result := by
  by_cases h : stops <;> simp [h, throw, throwThe, MonadExceptOf.throw, bind, Except.bind]

end ReleaseLog
