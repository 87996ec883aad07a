import LogtalkNavigation.Proofs.Reading
import LogtalkNavigation.Service.Basic

/-! Steps of work on an office, whatever its engines are. -/

namespace LogtalkNavigation

open Act

variable {ε α β : Type}

namespace Job

theorem act_ran {action : Act α} {office : Office ε} {value : α} {world : World}
    (ran : action office.world = .ok value world) :
    act action office = .ok value { office with world } := by
  simp only [act, ran]

theorem act_failed {action : Act α} {office : Office ε} {failure : Failure} {world : World}
    (failed : action office.world = .error failure world) :
    act action office = .error failure { office with world } := by
  simp only [act, failed]

theorem attempt_ran {job : Work ε α} {office later : Office ε} {value : α}
    (ran : job office = .ok value later) : attempt job office = .ok (.ok value) later := by
  simp only [attempt, ran]

theorem attempt_failed {job : Work ε α} {office later : Office ε} {failure : Failure}
    (failed : job office = .error failure later) : attempt job office = .ok (.error failure) later := by
  simp only [attempt, failed]

end Job

namespace Work

def left (job : Work ε α) (office : Office ε) : Office ε :=
  match job office with
  | .ok _ later => later
  | .error _ later => later

theorem left_of_ran {job : Work ε α} {office later : Office ε} {value : α}
    (ran : job office = .ok value later) : job.left office = later := by
  rw [left, ran]

theorem left_of_failed {job : Work ε α} {office later : Office ε} {failure : Failure}
    (failed : job office = .error failure later) : job.left office = later := by
  rw [left, failed]

theorem left_bind {job : Work ε α} {office later : Office ε} {value : α}
    (ran : job office = .ok value later) (next : α → Work ε β) :
    (job >>= next).left office = (next value).left later := by
  rw [left, bind_ran ran, ← left]

end Work

end LogtalkNavigation
