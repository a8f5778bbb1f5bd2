import FluxFleet.Flux.Patch
import FluxFleet.Proofs.Json.RoundTrip
import Mathlib.Algebra.Group.Nat.Defs

/-!
# Tuned controllers

A setting in force for a controller is its own or else the shared one, for each setting by itself
(`Controller.InForce`). The controllers with a setting in force are patched in their order, and the
text of a patch is read back as the operations that add the arguments (`Patch.controllers_tuned`).

Two limits belong to numbers and texts and not to patches. A number of too many digits has no text,
so that there is no patch at all, and a delay that holds the two halves of a surrogate pair in a row
is read back with one character for the two.
-/

namespace FluxFleet

/-! ## Settings in force -/

namespace Controller

/-- A setting in force is the controller's own, or the shared one if it has none of its own. -/
inductive InForce {α : Type} (own shared : Option α) (x : α) : Prop
  | own (given : own = some x)
  | shared (absent : own = none) (given : shared = some x)

theorem inForce_iff {α : Type} {own shared : Option α} {x : α} :
    InForce own shared x ↔ (own <|> shared) = some x := by
  constructor
  · rintro (rfl | ⟨rfl, given⟩)
    · rfl
    · exact given
  · intro h
    cases own with
    | none => exact .shared rfl h
    | some y => exact .own h

variable (t : ControllerTuning) (k : Controller)

/-- How many objects the controller works on at once. -/
def Concurrency (n : Int) : Prop :=
  InForce ((k.own? t).bind (·.concurrent)) t.shared.concurrent n

/-- How long the controller waits for a dependency. -/
def Delay (d : String) : Prop :=
  InForce ((k.own? t).bind (·.requeueDependency)) t.shared.requeueDependency d

/-- A setting is in force for the controller. -/
def Tuned : Prop := (∃ n, k.Concurrency t n) ∨ ∃ d, k.Delay t d

/-- The arguments that tune the controller: one for each setting in force, the number first. -/
inductive Asks : List String → Prop
  | both {n : Int} {d : String} (number : k.Concurrency t n) (delay : k.Delay t d) :
      Asks [s!"--concurrent={n}", s!"--requeue-dependency={d}"]
  | number {n : Int} (number : k.Concurrency t n) (delay : ∀ d, ¬ k.Delay t d) :
      Asks [s!"--concurrent={n}"]
  | delay {d : String} (number : ∀ n, ¬ k.Concurrency t n) (delay : k.Delay t d) :
      Asks [s!"--requeue-dependency={d}"]

variable {t : ControllerTuning} {k : Controller}

theorem concurrency_iff {n : Int} :
    k.Concurrency t n ↔ (k.tuning t).concurrent = some n := by
  rw [Concurrency, inForce_iff, tuning]
  cases k.own? t <;> rfl

theorem delay_iff {d : String} : k.Delay t d ↔ (k.tuning t).requeueDependency = some d := by
  rw [Delay, inForce_iff, tuning]
  cases k.own? t <;> rfl

end Controller

/-- Each number in force has few enough digits to be written. -/
def ControllerTuning.Short (t : ControllerTuning) : Prop :=
  ∀ (k : Controller) (n : Int), k.Concurrency t n → n.natAbs < 10 ^ digitLimit

theorem isWritable_iff {n : Int} : isWritable n = true ↔ n.natAbs < 10 ^ digitLimit := by
  have hten : tenTo digitLimit = 10 ^ digitLimit := by rw [tenTo, Nat.pow_eq]
  rw [isWritable, decide_eq_true_iff, hten]

/-- A number with few enough digits is written with them. -/
theorem Value.written_of_short {n : Int} (h : n.natAbs < 10 ^ digitLimit) :
    Value.written (.int n) = .ok (toString n) := by
  rw [Value.written, Value.isWritable, if_pos (isWritable_iff.mpr h)]
  rfl

theorem Value.written_of_overlong {n : Int} (h : ¬ n.natAbs < 10 ^ digitLimit) :
    Value.written (.int n) = .error (.digits .writing) := by
  rw [Value.written, Value.isWritable, Bool.eq_false_iff.mpr (mt isWritable_iff.mp h)]
  rfl

/-! ## Operations -/

namespace Patch

variable {t : ControllerTuning} {k : Controller} {args : List String} {text : String}

/-- Texts have a JSON form. -/
theorem exists_compact (args : List String) :
    ∃ text, Json.compact (.ofList (args.map addition)) = .ok text := by
  have hitems : ∀ depth, ∃ texts,
      Json.writeItems .compact depth (args.map addition) = .ok texts := by
    intro depth
    induction args with
    | nil => exact ⟨[], rfl⟩
    | cons a args ih =>
      obtain ⟨texts, htexts⟩ := ih
      rw [List.map_cons, Json.writeItems, htexts]
      exact ⟨_, rfl⟩
  obtain ⟨texts, htexts⟩ := hitems 1
  rw [Json.compact, Value.ofList, Json.write, htexts]
  exact ⟨_, rfl⟩

theorem readable_addition {a : String} (h : Text.Unpaired a) : Json.Readable (addition a) := by
  have hop : Text.Unpaired "op" := by decide
  have hadd : Text.Unpaired "add" := by decide
  have hpath : Text.Unpaired "path" := by decide
  have hplace : Text.Unpaired argumentsPath := by decide
  have hvalue : Text.Unpaired "value" := by decide
  refine .dict ?_ ?_ ?_
  · simp [hop, hpath, hvalue]
  · simp
  · simp [Json.Readable.text, hadd, hplace, h]

/-- The operations are read back from their text. -/
theorem read?_additions (hargs : ∀ a ∈ args, Text.Unpaired a)
    (h : Json.compact (.ofList (args.map addition)) = .ok text) :
    Json.read? text = some (.ofList (args.map addition)) := by
  refine Json.read?_write (.list fun v hv => ?_) h
  obtain ⟨a, ha, rfl⟩ := List.mem_map.mp hv
  exact readable_addition (hargs a ha)

/-! ## The patch of a controller -/

/-- A controller with arguments is patched. -/
theorem ofController?_of_arguments (hne : args ≠ []) (hargs : arguments (k.tuning t) = .ok args)
    (htext : Json.compact (.ofList (args.map addition)) = .ok text) :
    ofController? t k = .ok (some { text, kind := "Deployment", name := some k.name }) := by
  rw [ofController?, hargs]
  cases args with
  | nil => exact absurd rfl hne
  | cons a args =>
    simp only [bind, Except.bind, htext]
    rfl

/-- A patch tunes a controller: it is for the deployment of this name, and its text, if no delay
in force holds the halves of a pair in a row, is read as the additions of the arguments. -/
structure Tunes (t : ControllerTuning) (k : Controller) (p : Patch) : Prop where
  kind : p.kind = .str "Deployment"
  name : p.name = some k.name
  operations : ∃ args, k.Asks t args ∧ ((∀ d, k.Delay t d → Text.Unpaired d) →
    Json.read? p.text = some (.ofList (args.map fun a => .record [("op", "add"),
      ("path", "/spec/template/spec/containers/0/args/-"), ("value", .str a)])))

/-- What becomes of a controller. -/
inductive Outcome (t : ControllerTuning) (k : Controller) : Option Patch → Prop
  | left (untuned : ¬ k.Tuned t) : Outcome t k none
  | patched {p : Patch} (tuned : k.Tuned t) (tunes : Tunes t k p) : Outcome t k (some p)

/-- Arguments whose number can be written are those that the settings in force ask for. -/
theorem exists_arguments (h : ∀ n, k.Concurrency t n → n.natAbs < 10 ^ digitLimit) :
    ∃ args, arguments (k.tuning t) = .ok args ∧
      (¬ k.Tuned t ∧ args = [] ∨ k.Tuned t ∧ k.Asks t args) := by
  rw [arguments]
  rcases hnumber : (k.tuning t).concurrent with _ | n
  · have hno : ∀ n, ¬ k.Concurrency t n := fun n h => by
      cases hnumber.symm.trans (Controller.concurrency_iff.mp h)
    rcases hdelay : (k.tuning t).requeueDependency with _ | d
    · refine ⟨[], rfl, Or.inl ⟨?_, rfl⟩⟩
      rintro (⟨n, h⟩ | ⟨d, h⟩)
      · exact hno n h
      · cases hdelay.symm.trans (Controller.delay_iff.mp h)
    · have hin := Controller.delay_iff.mpr hdelay
      exact ⟨_, rfl, Or.inr ⟨Or.inr ⟨d, hin⟩, .delay hno hin⟩⟩
  · have hin := Controller.concurrency_iff.mpr hnumber
    dsimp only
    rw [Value.written_of_short (h n hin)]
    rcases hdelay : (k.tuning t).requeueDependency with _ | d
    · refine ⟨_, rfl, Or.inr ⟨Or.inl ⟨n, hin⟩, .number hin fun d h => ?_⟩⟩
      cases hdelay.symm.trans (Controller.delay_iff.mp h)
    · exact ⟨_, rfl, Or.inr ⟨Or.inl ⟨n, hin⟩, .both hin (Controller.delay_iff.mpr hdelay)⟩⟩

/-- Arguments have no halves in a row but those of the delay. -/
theorem unpaired_of_asks (h : k.Asks t args) (hdelay : ∀ d, k.Delay t d → Text.Unpaired d) :
    ∀ a ∈ args, Text.Unpaired a := by
  have hnumber (n : Int) : Text.Unpaired s!"--concurrent={n}" :=
    Text.unpaired_append (by decide) (Json.unpaired_toString n)
  have htext {d : String} (hd : k.Delay t d) : Text.Unpaired s!"--requeue-dependency={d}" :=
    Text.unpaired_append (by decide) (hdelay d hd)
  cases h with
  | @both n d _ hd =>
    exact List.forall_mem_cons.mpr ⟨hnumber n, List.forall_mem_singleton.mpr (htext hd)⟩
  | @number n _ _ => exact List.forall_mem_singleton.mpr (hnumber n)
  | delay _ hd => exact List.forall_mem_singleton.mpr (htext hd)

/-- The arguments are known from the tuning. -/
theorem args_of_asks (h : k.Asks t args) :
    args = ((k.tuning t).concurrent.map fun n => s!"--concurrent={n}").toList ++
      ((k.tuning t).requeueDependency.map fun d => s!"--requeue-dependency={d}").toList := by
  cases h with
  | both number delay =>
    rw [Controller.concurrency_iff.mp number, Controller.delay_iff.mp delay]
    rfl
  | number number delay =>
    have hnone := Option.eq_none_iff_forall_ne_some.mpr fun d =>
      mt Controller.delay_iff.mpr (delay d)
    rw [Controller.concurrency_iff.mp number, hnone]
    rfl
  | delay number delay =>
    have hnone := Option.eq_none_iff_forall_ne_some.mpr fun n =>
      mt Controller.concurrency_iff.mpr (number n)
    rw [hnone, Controller.delay_iff.mp delay]
    rfl

/-- A controller whose number can be written is left or patched. -/
theorem exists_outcome (h : ∀ n, k.Concurrency t n → n.natAbs < 10 ^ digitLimit) :
    ∃ outcome, ofController? t k = .ok outcome ∧ Outcome t k outcome := by
  obtain ⟨args, hargs, ⟨huntuned, rfl⟩ | ⟨htuned, hasks⟩⟩ := exists_arguments h
  · refine ⟨none, ?_, .left huntuned⟩
    rw [ofController?, hargs]
    rfl
  · have hne : args ≠ [] := by cases hasks <;> exact List.cons_ne_nil _ _
    obtain ⟨text, htext⟩ := exists_compact args
    exact ⟨_, ofController?_of_arguments hne hargs htext, .patched htuned
      ⟨rfl, rfl, args, hasks, fun hdelay =>
        read?_additions (unpaired_of_asks hasks hdelay) htext⟩⟩

/-- Otherwise the limit for its digits is reported. -/
theorem ofController?_of_overlong {n : Int} (h : k.Concurrency t n)
    (hn : ¬ n.natAbs < 10 ^ digitLimit) : ofController? t k = .error (.digits .writing) := by
  rw [ofController?, arguments, Controller.concurrency_iff.mp h]
  dsimp only
  rw [Value.written_of_overlong hn]
  rfl

/-! ## The patches of a system -/

/-- The patches are those of the tuned controllers, in order. -/
theorem exists_row {ks : List Controller} {outcomes : List (Option Patch)}
    (h : List.Forall₂ (Outcome t) ks outcomes) :
    ∃ row : List Controller, row.Sublist ks ∧ (∀ k, k ∈ row ↔ k ∈ ks ∧ k.Tuned t) ∧
      List.Forall₂ (Tunes t) row (outcomes.filterMap id) := by
  induction h with
  | nil => exact ⟨[], .slnil, by simp, .nil⟩
  | @cons k outcome ks outcomes hk _ ih =>
    obtain ⟨row, hsub, hrow, htunes⟩ := ih
    cases hk with
    | left untuned =>
      refine ⟨row, hsub.cons k, fun k' => ?_, htunes⟩
      rw [hrow, List.mem_cons]
      constructor
      · exact fun ⟨hmem, htuned⟩ => ⟨Or.inr hmem, htuned⟩
      · rintro ⟨rfl | hmem, htuned⟩
        · exact absurd htuned untuned
        · exact ⟨hmem, htuned⟩
    | patched tuned tunes =>
      refine ⟨k :: row, hsub.cons_cons k, fun k' => ?_, .cons tunes htunes⟩
      rw [List.mem_cons, hrow, List.mem_cons]
      constructor
      · rintro (rfl | ⟨hmem, htuned⟩)
        · exact ⟨Or.inl rfl, tuned⟩
        · exact ⟨Or.inr hmem, htuned⟩
      · rintro ⟨rfl | hmem, htuned⟩
        · exact Or.inl rfl
        · exact Or.inr ⟨hmem, htuned⟩

variable {system : Option SystemSettings}

theorem ofSystem?_of_untuned (h : system.bind (·.controllers) = none) :
    ofSystem? system = .ok none := by
  rw [ofSystem?, h]
  rfl

/-- A system whose numbers can be written is patched. -/
theorem exists_outcomes (ht : system.bind (·.controllers) = some t) (h : t.Short) :
    ∃ outcomes : List (Option Patch), List.Forall₂ (Outcome t) Controller.all outcomes ∧
      ofSystem? system = .ok (if (outcomes.filterMap id).isEmpty then none
        else some (outcomes.filterMap id)) := by
  have hall : ∀ k ∈ Controller.all, ∃ outcome, ofController? t k = .ok outcome := fun k _ => by
    obtain ⟨outcome, hk, -⟩ := exists_outcome (h k)
    exact ⟨outcome, hk⟩
  obtain ⟨outcomes, hrow⟩ := exists_mapM_eq_ok hall
  refine ⟨outcomes, (mapM_eq_ok_iff.mp hrow).imp fun k outcome hk => ?_, ?_⟩
  · obtain ⟨outcome', hk', houtcome⟩ := exists_outcome (h k)
    obtain rfl : outcome' = outcome := Except.ok.inj (hk'.symm.trans hk)
    exact houtcome
  · rw [ofSystem?, ht]
    exact bind_eq_ok.mpr ⟨outcomes, hrow, rfl⟩

theorem exists_ofSystem? (h : ∀ t ∈ system.bind (·.controllers), t.Short) :
    ∃ answer, ofSystem? system = .ok answer := by
  rcases ht : system.bind (·.controllers) with _ | t
  · exact ⟨none, ofSystem?_of_untuned ht⟩
  · obtain ⟨_, -, hanswer⟩ := exists_outcomes ht (h t ht)
    exact ⟨_, hanswer⟩

/-- Otherwise the limit for digits is reported, and nothing else. -/
theorem ofSystem?_of_overlong (ht : system.bind (·.controllers) = some t) (h : ¬ t.Short) :
    ofSystem? system = .error (.digits .writing) := by
  simp only [ControllerTuning.Short, not_forall] at h
  obtain ⟨k, n, hk, hn⟩ := h
  rw [ofSystem?, ht]
  rcases hrow : Controller.all.mapM (ofController? t) with e | outcomes
  · obtain ⟨k', -, he⟩ := exists_of_mapM_eq_error hrow
    by_cases hshort : ∀ n, k'.Concurrency t n → n.natAbs < 10 ^ digitLimit
    · obtain ⟨outcome, hk', -⟩ := exists_outcome hshort
      cases hk'.symm.trans he
    · simp only [not_forall] at hshort
      obtain ⟨n', hk', hn'⟩ := hshort
      cases (ofController?_of_overlong hk' hn').symm.trans he
      exact bind_eq_error.mpr (Or.inl hrow)
  · -- every controller is among those that are patched
    have hmem : k ∈ Controller.all := by cases k <;> decide
    obtain ⟨outcome, -, hk'⟩ := exists_of_mapM_eq_ok hrow hmem
    cases (ofController?_of_overlong hk hn).symm.trans hk'

/-- **Tuned controllers.** If the numbers in force have few enough digits, there are patches
exactly if a controller has a setting in force, one for each such controller and in the order of
the controllers; and the text of a patch is read as the additions of its arguments, whatever the
delay holds but the halves of a pair in a row. A number of more digits is refused. -/
theorem controllers_tuned (system : Option SystemSettings) :
    ((∀ t ∈ system.bind (·.controllers), t.Short) →
      ∃ answer, ofSystem? system = .ok answer ∧
        (answer = none ↔
          ∀ t ∈ system.bind (·.controllers), ∀ k : Controller, ¬ k.Tuned t) ∧
        ∀ patches ∈ answer, ∃ t ∈ system.bind (·.controllers), ∃ row : List Controller,
          row.Sublist [.kustomize, .helm, .source] ∧ (∀ k, k ∈ row ↔ k.Tuned t) ∧
          List.Forall₂ (Tunes t) row patches) ∧
    ((∃ t ∈ system.bind (·.controllers), ¬ t.Short) →
      ofSystem? system = .error (.digits .writing)) := by
  constructor
  · intro hshort
    rcases ht : system.bind (·.controllers) with _ | t
    · exact ⟨none, ofSystem?_of_untuned ht,
        iff_of_true rfl fun t h => absurd h (Option.not_mem_none t),
        fun patches h => absurd h (Option.not_mem_none patches)⟩
    obtain ⟨outcomes, houtcomes, hanswer⟩ := exists_outcomes ht (hshort t ht)
    obtain ⟨row, hsub, hrow, htunes⟩ := exists_row houtcomes
    have htuned : ∀ k, k ∈ row ↔ k.Tuned t := fun k =>
      (hrow k).trans (and_iff_right (by cases k <;> decide))
    generalize outcomes.filterMap id = patches at hanswer htunes
    cases htunes with
    | nil =>
      refine ⟨none, hanswer, iff_of_true rfl fun t' ht' k hk => ?_,
        fun patches h => absurd h (Option.not_mem_none patches)⟩
      obtain rfl := Option.some.inj ht'
      exact absurd ((htuned k).mpr hk) List.not_mem_nil
    | @cons k p row patches hk htunes =>
      refine ⟨some (p :: patches), hanswer, iff_of_false nofun fun h => ?_, fun patches' h => ?_⟩
      · exact h t rfl k ((htuned k).mp List.mem_cons_self)
      · obtain rfl := Option.some.inj h
        exact ⟨t, rfl, k :: row, hsub, htuned, .cons hk htunes⟩
  · rintro ⟨t, ht, hlong⟩
    exact ofSystem?_of_overlong ht hlong

/-! ## Some tunings -/

/-- A system with one tuning for all controllers. -/
def sharing (tuning : Tuning) : Option SystemSettings :=
  some { controllers := some { shared := tuning } }

theorem not_short_of_overlong {n : Nat} (h : 10 ^ digitLimit ≤ n) :
    ¬ ControllerTuning.Short { shared := { concurrent := some (n : Int) } } :=
  fun hshort => Nat.not_lt.mpr h (hshort .helm n (.shared rfl rfl))

/-- A delay with characters that are escaped. -/
def roughDelay : String := "1m \"\\\n\x01é😀"

/-- A tuning in which one controller has a number and another a delay of its own. -/
def mixedTuning : ControllerTuning :=
  { shared := { requeueDependency := some roughDelay }
    kustomize := some { concurrent := some (-4) }
    helm := some { requeueDependency := some "" } }

/-- What the patches of this tuning are read as. -/
theorem mixed_controllers_tuned :
    (∃ p q r, ofSystem? (some { controllers := some mixedTuning }) = .ok (some [p, q, r]) ∧
      Json.read? p.text = some (.ofList
        [addition "--concurrent=-4", addition s!"--requeue-dependency={roughDelay}"]) ∧
      Json.read? q.text = some (.ofList [addition "--requeue-dependency="]) ∧
      Json.read? r.text = some (.ofList [addition s!"--requeue-dependency={roughDelay}"])) ∧
    ofSystem? (sharing { concurrent := some ↑(10 ^ digitLimit : Nat) }) =
      .error (.digits .writing) := by
  constructor
  · have hshort : mixedTuning.Short := by
      intro k n hn
      have hfour : (-4 : Int).natAbs < 10 ^ digitLimit :=
        Nat.lt_of_lt_of_le (by decide : 4 < 10 ^ 1) (Nat.pow_le_pow_right (by decide) (by decide))
      cases k with
      | kustomize => exact Option.some.inj (Controller.concurrency_iff.mp hn) ▸ hfour
      | helm => cases Controller.concurrency_iff.mp hn
      | source => cases Controller.concurrency_iff.mp hn
    have htuned : ∀ k : Controller, k.Tuned mixedTuning := fun k => by
      cases k with
      | helm => exact Or.inr ⟨_, .own rfl⟩
      | _ => exact Or.inr ⟨_, .shared rfl rfl⟩
    have hdelay : ∀ k : Controller, ∀ d, k.Delay mixedTuning d → Text.Unpaired d := by
      intro k d hd
      have hsetting := Controller.delay_iff.mp hd
      cases k with
      | helm =>
        obtain rfl : "" = d := Option.some.inj hsetting
        decide
      | _ =>
        obtain rfl : roughDelay = d := Option.some.inj hsetting
        decide
    obtain ⟨answer, hanswer, hnone, hsome⟩ :=
      (controllers_tuned (some { controllers := some mixedTuning })).1 fun t ht =>
        Option.some.inj ht ▸ hshort
    cases answer with
    | none => exact absurd (htuned .helm) (hnone.mp rfl mixedTuning rfl .helm)
    | some patches =>
      obtain ⟨t, ht, row, hsub, hrow, htunes⟩ := hsome patches rfl
      obtain rfl := Option.some.inj ht
      -- all controllers are tuned, so the row leaves none out
      have hall : [Controller.kustomize, .helm, .source] ⊆ row := fun k _ => (hrow k).mpr (htuned k)
      obtain rfl := hsub.eq_of_length_le
        (List.subperm_of_subset (show List.Nodup _ by decide) hall).length_le
      obtain _ | ⟨hp, _ | ⟨hq, _ | ⟨hr, _ | _⟩⟩⟩ := htunes
      rename_i p q r
      refine ⟨p, q, r, hanswer, ?_, ?_, ?_⟩
      · obtain ⟨args, hasks, hread⟩ := hp.operations
        rw [hread (hdelay _), args_of_asks hasks]
        rfl
      · obtain ⟨args, hasks, hread⟩ := hq.operations
        rw [hread (hdelay _), args_of_asks hasks]
        rfl
      · obtain ⟨args, hasks, hread⟩ := hr.operations
        rw [hread (hdelay _), args_of_asks hasks]
        rfl
  · exact (controllers_tuned _).2 ⟨_, rfl, not_short_of_overlong (Nat.le_refl _)⟩

/-- The two halves of a pair, each by itself. -/
def halves : String := Text.ofCodePoints [0xD800, 0xDC00]

/-- They are written like the character of the pair. -/
theorem compact_halves : Json.compact (.ofList [addition s!"--requeue-dependency={halves}"]) =
    Json.compact (.ofList [addition "--requeue-dependency=𐀀"]) := by
  have hquoted : Json.quoted s!"--requeue-dependency={halves}" =
    Json.quoted "--requeue-dependency=𐀀" := by decide +kernel
  simp only [Json.compact, addition, Value.record, Value.ofList, Value.ofEntries, List.map,
    Json.write, Json.writeItems, Json.writeEntries, hquoted]

/-- **Not every setting comes back.** A number of too many digits gets no patch, and a delay of two
halves comes back as another text. -/
theorem settings_lost :
    ofSystem? (sharing { concurrent := some ↑(10 ^ digitLimit : Nat) }) =
        .error (.digits .writing) ∧
    ∃ p q r, ofSystem? (sharing { requeueDependency := some halves }) = .ok (some [p, q, r]) ∧
      Json.read? p.text = some (.ofList [addition "--requeue-dependency=𐀀"]) ∧
      s!"--requeue-dependency={halves}" ≠ "--requeue-dependency=𐀀" := by
  refine ⟨ofSystem?_of_overlong rfl (not_short_of_overlong (Nat.le_refl _)), ?_⟩
  obtain ⟨text, htext⟩ := exists_compact ["--requeue-dependency=𐀀"]
  have hpatch (k : Controller) :
      ofController? { shared := { requeueDependency := some halves } } k =
      .ok (some { text, kind := "Deployment", name := some k.name }) :=
    ofController?_of_arguments (List.cons_ne_nil _ []) (by cases k <;> rfl)
      (compact_halves.trans htext)
  have hrow := mapM_eq_ok_iff.mpr (.cons (hpatch .kustomize) (.cons (hpatch .helm)
    (.cons (hpatch .source) .nil)))
  refine ⟨_, _, _, bind_eq_ok.mpr ⟨_, hrow, rfl⟩, read?_additions ?_ htext, by decide +kernel⟩
  exact List.forall_mem_singleton.mpr (by decide)

end Patch

end FluxFleet
