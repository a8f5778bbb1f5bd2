import FluxFleet.CommandLine.Session
import FluxFleet.Proofs.Success

/-!
# Sessions that succeed

A command is a row of steps, each of which finds the console that the one before it left. If the
command succeeds, all of its steps do.
-/

namespace FluxFleet.CommandLine.Session

variable {α β : Type} {c c' : Console}

/-- The second part of a command finds what the first one left, unless that failed. -/
theorem run_bind (x : Session α) (f : α → Session β) (c : Console) :
    (x >>= f).run c = match x.run c with
      | (.ok a, left) => (f a).run left
      | (.error e, left) => (.error e, left) := by
  change ExceptT.bindCont f (x.run c).1 (x.run c).2 = _
  rcases x.run c with ⟨e | a, left⟩ <;> rfl

/-- A row of commands goes on behind the first one, unless that failed. -/
theorem run_forM_cons (f : α → Session Unit) (a : α) (as : List α) (c : Console) :
    ((a :: as).forM f).run c = match (f a).run c with
      | (.ok _, left) => (as.forM f).run left
      | (.error e, left) => (.error e, left) := by
  change (f a >>= fun _ => as.forM f).run c = _
  rw [run_bind]
  rcases (f a).run c with ⟨e | u, left⟩ <;> rfl

theorem run_forM_of_ok {f : α → Session Unit} {a : α} (h : ((f a).run c).1 = .ok ())
    (as : List α) : ((a :: as).forM f).run c = (as.forM f).run ((f a).run c).2 := by
  rw [run_forM_cons]
  rcases hrun : (f a).run c with ⟨e | ⟨⟩, left⟩
  · rw [hrun] at h
    cases h
  · rfl

theorem run_forM_of_error {f : α → Session Unit} {a : α} {e : Error}
    (h : ((f a).run c).1 = .error e) (as : List α) :
    ((a :: as).forM f).run c = (f a).run c := by
  rw [run_forM_cons]
  rcases hrun : (f a).run c with ⟨e | ⟨⟩, left⟩
  · rfl
  · rw [hrun] at h
    cases h

/-- A sequence succeeds if both parts do. -/
theorem bind_eq_ok {x : Session α} {f : α → Session β} {b : β} :
    (x >>= f).run c = (.ok b, c') ↔ ∃ a left, x.run c = (.ok a, left) ∧
      (f a).run left = (.ok b, c') := by
  rw [run_bind]
  rcases x.run c with ⟨e | a, left⟩
  · constructor
    · intro h
      cases h
    · rintro ⟨a, left', h, -⟩
      cases h
  · constructor
    · intro h
      exact ⟨a, left, rfl, h⟩
    · rintro ⟨a', left', ha, h⟩
      cases ha
      exact h

/-- A computation without a console leaves it as it is. -/
theorem run_lift (x : Except Error α) (c : Console) : (liftM x : Session α).run c = (x, c) := rfl

theorem run_get (c : Console) : (get : Session Console).run c = (.ok c, c) := rfl

theorem run_path (p : Path) (c : Console) : (path (some p)).run c = (.ok p, c) := rfl

/-- Printing changes the output only. -/
theorem run_print (text : String) (c : Console) :
    (print text).run c = (.ok (), { c with output := c.output ++ text }) := rfl

/-- Logging changes the log only. -/
theorem run_log (level : Level) (origin message : String) (c : Console) :
    (log level origin message).run c =
      (.ok (), { c with errors := c.errors ++ logLine c.level level origin message }) := rfl

/-- So it succeeds in a command if it does by itself. -/
theorem lift_eq_ok {x : Except Error α} {a : α} :
    (liftM x : Session α).run c = (.ok a, c') ↔ x = .ok a ∧ c = c' := by
  rw [run_lift, Prod.mk.injEq]

theorem exists_of_discard_lift {x : Except Error α} {u : Unit}
    (h : (discard (liftM x : Session α)).run c = (.ok u, c')) : ∃ a, x = .ok a := by
  rcases x with e | a
  · cases h
  · exact ⟨a, rfl⟩

/-- Each member of a list that is worked through has a result. -/
theorem exists_of_mapM_eq_ok {f : α → Session β} {xs : List α} {ys : List β}
    (h : (xs.mapM f).run c = (.ok ys, c')) {x : α} (hx : x ∈ xs) :
    ∃ y before after, (f x).run before = (.ok y, after) := by
  induction xs generalizing c c' ys with
  | nil => cases hx
  | cons a xs ih =>
    rw [List.mapM_cons] at h
    obtain ⟨y, left, hy, h⟩ := bind_eq_ok.mp h
    obtain ⟨ys', left', hys, -⟩ := bind_eq_ok.mp h
    rcases List.mem_cons.mp hx with rfl | hmem
    · exact ⟨y, c, left, hy⟩
    · exact ih hys hmem

end FluxFleet.CommandLine.Session
