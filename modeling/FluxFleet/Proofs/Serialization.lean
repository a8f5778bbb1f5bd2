import FluxFleet.Output
import FluxFleet.Proofs.Success

/-!
# Documents that can always be written

A document can fail to be written: some values have no form, and the writers come to an end in one
that is too high. A document of texts, sequences and mappings whose keys are texts is written in
both formats as long as it is not too high (`exists_serialize`).
-/

namespace FluxFleet

namespace Value

/-- A value of texts in new sequences and in new mappings whose keys are texts, at most so many of
them around each other. -/
inductive Textual : Nat → Value → Prop
  | text {n : Nat} (s : String) : Textual n (.str s)
  | list {n : Nat} {items : List Value} : (∀ v ∈ items, Textual n v) →
      Textual (n + 1) (.list .none items)
  | dict {n : Nat} {entries : List (Value × Value)} : (∀ e ∈ entries, ∃ key, e.1 = .str key) →
      (∀ e ∈ entries, Textual n e.2) → Textual (n + 1) (.dict .none entries)

variable {n : Nat} {v : Value} {items : List Value}

theorem Textual.succ (h : Textual n v) : Textual (n + 1) v := by
  induction h with
  | text s => exact .text s
  | list _ ih => exact .list ih
  | dict hkeys _ ih => exact .dict hkeys ih

theorem Textual.ofList (h : ∀ v ∈ items, Textual n v) : Textual (n + 1) (.ofList items) := .list h

theorem Textual.record {fields : List (String × Value)} (h : ∀ f ∈ fields, Textual n f.2) :
    Textual (n + 1) (.record fields) := by
  refine .dict (fun e he => ?_) (fun e he => ?_)
  · obtain ⟨f, -, rfl⟩ := List.mem_map.mp he
    exact ⟨f.1, rfl⟩
  · obtain ⟨f, hf, rfl⟩ := List.mem_map.mp he
    exact h f hf

variable {walk : Walk} {entries : List (Value × Value)}

theorem heightOfItems_le (h : ∀ v ∈ items, v.height walk ≤ n) : heightOfItems walk items ≤ n := by
  induction items with
  | nil => exact Nat.zero_le n
  | cons v items ih =>
    obtain ⟨hv, hitems⟩ := List.forall_mem_cons.mp h
    exact Nat.max_le.mpr ⟨hv, ih hitems⟩

theorem heightOfEntries_le (h : ∀ e ∈ entries, e.2.height walk ≤ n) :
    heightOfEntries walk entries ≤ n := by
  induction entries with
  | nil => exact Nat.zero_le n
  | cons e entries ih =>
    obtain ⟨he, hentries⟩ := List.forall_mem_cons.mp h
    exact Nat.max_le.mpr ⟨he, ih hentries⟩

theorem areEndless_eq_false (h : ∀ v ∈ items, v.isEndless walk = false) :
    areEndless walk items = false := by
  induction items with
  | nil => rfl
  | cons v items ih =>
    obtain ⟨hv, hitems⟩ := List.forall_mem_cons.mp h
    rw [areEndless, hv, ih hitems, Bool.or_self]

theorem areEntriesEndless_eq_false (h : ∀ e ∈ entries, e.2.isEndless walk = false) :
    areEntriesEndless walk entries = false := by
  induction entries with
  | nil => rfl
  | cons e entries ih =>
    obtain ⟨he, hentries⟩ := List.forall_mem_cons.mp h
    rw [areEntriesEndless, he, ih hentries, Bool.or_self]

theorem isWithin_eq_true_iff {limit : Nat} :
    v.isWithin walk limit = true ↔ v.isEndless walk = false ∧ v.height walk ≤ limit := by
  rw [isWithin, Bool.and_eq_true, Bool.not_eq_true', decide_eq_true_iff]

theorem Textual.height_le (walk : Walk) (h : Textual n v) : v.height walk ≤ n := by
  induction h with
  | text s => exact Nat.zero_le _
  | list _ ih => exact Nat.succ_le_succ (heightOfItems_le ih)
  | dict _ _ ih =>
    cases walk with
    | rows => exact Nat.zero_le _
    | whole => exact Nat.succ_le_succ (heightOfEntries_le ih)

theorem Textual.isEndless_eq_false (walk : Walk) (h : Textual n v) : v.isEndless walk = false := by
  induction h with
  | text s => rfl
  | list _ ih => exact areEndless_eq_false ih
  | dict _ _ ih =>
    cases walk with
    | rows => rfl
    | whole => exact areEntriesEndless_eq_false ih

end Value

/-! ## JSON -/

namespace Json

variable {layout : Layout} {depth : Nat}

theorem exists_writeItems {items : List Value}
    (h : ∀ v ∈ items, ∃ text, write layout depth v = .ok text) :
    ∃ texts, writeItems layout depth items = .ok texts := by
  induction items with
  | nil => exact ⟨[], rfl⟩
  | cons v items ih =>
    obtain ⟨text, htext⟩ := h v List.mem_cons_self
    obtain ⟨texts, htexts⟩ := ih fun w hw => h w (List.mem_cons_of_mem _ hw)
    exact ⟨text :: texts, by rw [writeItems, htext, htexts]; rfl⟩

theorem exists_writeEntries {entries : List (Value × Value)}
    (hkeys : ∀ e ∈ entries, ∃ key, e.1 = .str key)
    (h : ∀ e ∈ entries, ∃ text, write layout depth e.2 = .ok text) :
    ∃ texts, writeEntries layout depth entries = .ok texts := by
  induction entries with
  | nil => exact ⟨[], rfl⟩
  | cons e entries ih =>
    obtain ⟨key, hkey⟩ := hkeys e List.mem_cons_self
    obtain ⟨text, htext⟩ := h e List.mem_cons_self
    obtain ⟨texts, htexts⟩ := ih (fun w hw => hkeys w (List.mem_cons_of_mem _ hw))
      fun w hw => h w (List.mem_cons_of_mem _ hw)
    exact ⟨_ :: texts, by rw [writeEntries, hkey, htext, htexts]; rfl⟩

/-- Texts have a JSON form, if there are levels enough. -/
theorem exists_write {n : Nat} {v : Value} (h : v.Textual n)
    (hroom : ∀ d < depth + n, layout.isFull d = false) :
    ∃ text, write layout depth v = .ok text := by
  induction h generalizing depth with
  | text s => exact ⟨quoted s, rfl⟩
  | list _ ih =>
    obtain ⟨texts, htexts⟩ := exists_writeItems fun v hv =>
      @ih v hv (depth + 1) fun d hd => hroom d (by omega)
    exact ⟨_, by rw [write, hroom depth (by omega), htexts]; rfl⟩
  | dict hkeys _ ih =>
    obtain ⟨texts, htexts⟩ := exists_writeEntries hkeys fun e he =>
      @ih e he (depth + 1) fun d hd => hroom d (by omega)
    exact ⟨_, by rw [write, hroom depth (by omega), htexts]; rfl⟩

end Json

/-! ## YAML -/

namespace Yaml

open Node (Form)

variable {form : Form} {n : Nat}

/-- The tree of a value, which leaves nothing for later references, with its height. -/
structure Node.Plain (form : Form) (v : Value) (n : Nat) (node : Node) : Prop where
  grown : ∀ g : Growth, (Node.ofValue form v).run g = (node, g)
  low : node.height ≤ n
  writable : node.isWritable = true

theorem Node.exists_items {items : List Value} (h : ∀ v ∈ items, ∃ node, Node.Plain form v n node) :
    ∃ nodes, (∀ g : Growth, (Node.ofItems form items).run g = (nodes, g)) ∧
      Node.heightOfItems nodes ≤ n ∧ Node.areWritable nodes = true := by
  induction items with
  | nil => exact ⟨[], fun g => rfl, Nat.zero_le _, rfl⟩
  | cons v items ih =>
    obtain ⟨node, hnode⟩ := h v List.mem_cons_self
    obtain ⟨nodes, hgrown, hlow, hwritable⟩ := ih fun w hw => h w (List.mem_cons_of_mem _ hw)
    refine ⟨node :: nodes, fun g => ?_, Nat.max_le.mpr ⟨hnode.low, hlow⟩, ?_⟩
    · rw [Node.ofItems, StateT.run_bind, hnode.grown]
      exact congrArg (fun r => (node :: r.1, r.2)) (hgrown g)
    · rw [Node.areWritable, hnode.writable, hwritable, Bool.and_self]

theorem Node.exists_entries {entries : List (Value × Value)}
    (hkeys : ∀ e ∈ entries, ∃ key, e.1 = .str key)
    (h : ∀ e ∈ entries, ∃ node, Node.Plain form e.2 (n + 1) node) :
    ∃ nodes, (∀ g : Growth, (Node.ofEntries form entries).run g = (nodes, g)) ∧
      Node.heightOfEntries nodes ≤ n + 1 ∧ Node.areEntriesWritable nodes = true := by
  induction entries with
  | nil => exact ⟨[], fun g => rfl, Nat.zero_le _, rfl⟩
  | cons e entries ih =>
    obtain ⟨key, v⟩ := e
    obtain ⟨key, rfl⟩ := hkeys _ List.mem_cons_self
    obtain ⟨node, hnode⟩ := h _ List.mem_cons_self
    obtain ⟨nodes, hgrown, hlow, hwritable⟩ := ih
      (fun w hw => hkeys w (List.mem_cons_of_mem _ hw)) fun w hw => h w (List.mem_cons_of_mem _ hw)
    have hkey : (Node.ofText form key).height ≤ n + 1 := Nat.le_add_left 1 n
    refine ⟨(Node.ofText form key, node) :: nodes, fun g => ?_,
      Nat.max_le.mpr ⟨Nat.max_le.mpr ⟨hkey, hnode.low⟩, hlow⟩, ?_⟩
    · change (do
        let value ← Node.ofValue form v
        return (Node.ofText form key, value) :: (← Node.ofEntries form entries)).run g = _
      rw [StateT.run_bind, hnode.grown]
      exact congrArg (fun r => ((Node.ofText form key, node) :: r.1, r.2)) (hgrown g)
    · have hwritable' : (Node.ofText form key).isWritable = true := rfl
      rw [Node.areEntriesWritable, hwritable', hnode.writable, hwritable]
      rfl

/-- Texts have a tree, with one node more on the way down than there are collections. -/
theorem Node.exists_plain {v : Value} (h : v.Textual n) :
    ∃ node, Node.Plain form v (n + 1) node := by
  induction h with
  | text s => exact ⟨Node.ofText form s, fun g => rfl, Nat.le_add_left 1 _, rfl⟩
  | list _ ih =>
    obtain ⟨nodes, hgrown, hlow, hwritable⟩ := Node.exists_items ih
    refine ⟨.sequence none Tag.seq nodes, fun g => ?_, Nat.succ_le_succ hlow, hwritable⟩
    exact congrArg (fun r => (Node.sequence none Tag.seq r.1, r.2)) (hgrown g)
  | dict hkeys _ ih =>
    obtain ⟨nodes, hgrown, hlow, hwritable⟩ := Node.exists_entries hkeys ih
    refine ⟨.mapping none Tag.map nodes, fun g => ?_, Nat.succ_le_succ hlow, hwritable⟩
    exact congrArg (fun r => (Node.mapping none Tag.map r.1, r.2)) (hgrown g)

/-- Texts that are not too high make a document without faults. -/
theorem Document.fault?_eq_none {limit : Nat} {v : Value} (hform : form.sortKeys = false)
    (h : v.Textual n) (hlow : n < limit) : (Document.ofValue form v).fault? limit = none := by
  obtain ⟨node, hnode⟩ : ∃ node, Node.Plain form v (n + 1) node := Node.exists_plain h
  have hroot : (Document.ofValue form v).root = node := by
    rw [Document.ofValue, hform, if_neg Bool.false_ne_true, Document.ofGrowth, hnode.grown]
  rw [Document.fault?, hroot, if_neg (Nat.not_lt.mpr (Nat.le_trans hnode.low hlow)), hnode.writable]
  rfl

end Yaml

/-! ## Both formats -/

namespace Output

/-- A content of texts that is not high is written in every format. -/
theorem exists_serialize {form : Yaml.Node.Form} {content : Content} {format : String} {n : Nat}
    (hform : form.sortKeys = false) (hformat : format ∈ formats) (h : content.value.Textual n)
    (hlow : n < 8) : ∃ text, serialize form content format = .ok text := by
  obtain ⟨hrows, hjson, hyaml⟩ := form.stack.roomy
  have hwithin : content.value.isWithin .rows form.stack.rows = true :=
    Value.isWithin_eq_true_iff.mpr ⟨h.isEndless_eq_false .rows, by have := h.height_le .rows; omega⟩
  have hwalk : ¬ (!content.value.isWithin .rows form.stack.rows) = true := by rw [hwithin]; decide
  have hdocuments : ∀ vs : List Value, (∀ v ∈ vs, v.Textual n) →
      ∃ text, Yaml.stream form.stack.yaml (vs.map (Yaml.Document.ofValue form)) = .ok text := by
    intro vs hvs
    have hfine : (vs.map (Yaml.Document.ofValue form)).findSome?
        (Yaml.Document.fault? form.stack.yaml) = none := by
      rw [List.findSome?_eq_none_iff]
      intro doc hdoc
      obtain ⟨v, hv, rfl⟩ := List.mem_map.mp hdoc
      exact Yaml.Document.fault?_eq_none hform (hvs v hv) (by omega)
    rw [Yaml.stream, hfine]
    exact ⟨_, rfl⟩
  rcases List.mem_pair.mp hformat with rfl | rfl
  -- a content of many documents is a list of them, each of which is one level lower
  · simp only [serialize, if_neg hwalk]
    cases content with
    | single v => exact hdocuments [v] fun w hw => List.mem_singleton.mp hw ▸ h
    | many vs =>
      cases h with
      | list h => exact hdocuments vs fun v hv => (h v hv).succ
  · have hroom : ∀ d < 0 + n, (Json.Layout.lines 2 form.stack.json).isFull d = false :=
      fun d hd => decide_eq_false (by omega)
    obtain ⟨text, htext⟩ := Json.exists_write h hroom
    refine ⟨text ++ "\n", ?_⟩
    simp only [serialize, if_neg hwalk, Json.pretty, htext]
    rfl

end Output

end FluxFleet
