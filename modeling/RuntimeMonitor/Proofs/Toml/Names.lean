import Mathlib.Data.List.Nodup
import RuntimeMonitor.Proofs.Text.Reader
import RuntimeMonitor.Toml.Document

/-!
# No name twice

In what a document denotes, no table names a member twice: neither the document itself nor the
tables in it, whether headers open them, dotted keys imply them, or they are written inline. The
tree keeps this while it grows, since a name is put in only once and replaced afterwards.
-/

namespace RuntimeMonitor.Toml

open Text Text.Reader

/-- Every table in the value names its members differently. -/
inductive Value.Distinct : Value → Prop
  | string (s : String) : (Value.string s).Distinct
  | integer (n : Int) : (Value.integer n).Distinct
  | float (x : Number.Double) : (Value.float x).Distinct
  | boolean (b : Bool) : (Value.boolean b).Distinct
  | datetime (d : Datetime) : (Value.datetime d).Distinct
  | array {items : List Value} (inner : ∀ v ∈ items, v.Distinct) : (Value.array items).Distinct
  | table {members : List (String × Value)} (names : (members.map Prod.fst).Nodup)
      (inner : ∀ m ∈ members, m.2.Distinct) : (Value.table members).Distinct

inductive Node.Distinct : Node → Prop
  | value {v : Value} (h : v.Distinct) : (Node.value v).Distinct
  | table (origin : Origin) {members : Members} (names : (members.map Prod.fst).Nodup)
      (inner : ∀ m ∈ members, m.2.Distinct) : (Node.table origin members).Distinct
  | series {earlier : List Members} {latest : Members}
      (names : ∀ t ∈ earlier ++ [latest], (t.map Prod.fst).Nodup)
      (inner : ∀ t ∈ earlier ++ [latest], ∀ m ∈ t, m.2.Distinct) :
      (Node.series earlier latest).Distinct

namespace Members

structure Distinct (members : Members) : Prop where
  names : (members.map Prod.fst).Nodup
  inner : ∀ m ∈ members, m.2.Distinct

theorem distinct_nil : Distinct [] := ⟨List.nodup_nil, nofun⟩

variable {members : Members} {name : String} {node : Node}

theorem mem_names_put {other : String} :
    other ∈ (members.put name node).map Prod.fst ↔ other = name ∨ other ∈ members.map Prod.fst := by
  fun_induction Members.put name node members <;> grind

theorem mem_put {m : String × Node} (h : m ∈ members.put name node) :
    m = (name, node) ∨ m ∈ members := by
  fun_induction Members.put name node members <;> grind

theorem Distinct.put (h : members.Distinct) (new : node.Distinct) :
    (members.put name node).Distinct := by
  constructor
  · have names := h.names
    clear h
    fun_induction Members.put name node members with
    | case1 => exact List.nodup_singleton name
    | case2 => exact names
    | case3 n old rest other ih =>
      rw [List.map_cons, List.nodup_cons] at names ⊢
      refine ⟨?_, ih names.2⟩
      rw [mem_names_put]
      exact not_or.mpr ⟨other, names.1⟩
  · intro m hm
    rcases mem_put hm with rfl | old
    · exact new
    · exact h.inner m old

theorem Distinct.of_lookup (h : members.Distinct) (found : members.lookup name = some node) :
    node.Distinct := by
  obtain ⟨before, after, rfl, -⟩ := List.lookup_eq_some_iff.mp found
  exact h.inner (name, node) (by simp)

end Members

theorem Node.distinct_table_iff {origin : Origin} {members : Members} :
    (Node.table origin members).Distinct ↔ members.Distinct := by
  constructor
  · intro h
    cases h with
    | table _ names inner => exact ⟨names, inner⟩
  · intro h
    exact .table origin h.names h.inner

theorem Node.distinct_series_iff {earlier : List Members} {latest : Members} :
    (Node.series earlier latest).Distinct ↔ ∀ t ∈ earlier ++ [latest], Members.Distinct t := by
  constructor
  · intro h
    cases h with
    | series names inner => exact fun t ht => ⟨names t ht, inner t ht⟩
  · intro h
    exact .series (fun t ht => (h t ht).names) (fun t ht => (h t ht).inner)

/-! ## Growing the tree -/

theorem within_distinct {dotted : Bool} {change : Origin → Members → Option Members}
    (keeps : ∀ origin members changed, Members.Distinct members →
      change origin members = some changed → Members.Distinct changed)
    {path : List String} {origin : Origin} {members changed : Members}
    (h : members.Distinct) (grown : within dotted change path origin members = some changed) :
    changed.Distinct := by
  fun_induction within dotted change path origin members generalizing changed with
  | case1 => exact keeps _ _ _ h grown
  | case2 name path _ members missing =>
    rename_i ih
    obtain ⟨inner, made, rfl⟩ := Option.map_eq_some_iff.mp grown
    exact h.put (Node.distinct_table_iff.mpr (ih Members.distinct_nil made))
  | case3 => cases grown
  | case4 => cases grown
  | case5 name path _ members origin inner found _ ih =>
    obtain ⟨inner', made, rfl⟩ := Option.map_eq_some_iff.mp grown
    have old := Node.distinct_table_iff.mp (h.of_lookup found)
    exact h.put (Node.distinct_table_iff.mpr (ih old made))
  | case6 name path _ members earlier latest found ih =>
    obtain ⟨latest', made, rfl⟩ := Option.map_eq_some_iff.mp grown
    have old := Node.distinct_series_iff.mp (h.of_lookup found)
    refine h.put (Node.distinct_series_iff.mpr ?_)
    intro t ht
    -- The path leads into the latest table only.
    rcases List.mem_append.mp ht with before | last
    · exact old t (List.mem_append_left _ before)
    · rw [List.mem_singleton.mp last]
      exact ih (old latest (by simp)) made

theorem addValue_distinct {path : List String} {name : String} {value : Value} {origin : Origin}
    {members changed : Members} (h : members.Distinct) (new : value.Distinct)
    (grown : addValue path name value origin members = some changed) : changed.Distinct := by
  refine within_distinct ?_ h grown
  intro origin inner changed h made
  split_ifs at made
  cases made
  exact h.put (.value new)

theorem openTable_distinct {path : List String} {name : String} {root changed : Members}
    (h : root.Distinct) (opened : openTable path name root = some changed) :
    changed.Distinct := by
  refine within_distinct ?_ h opened
  intro origin members changed h made
  split at made
  · cases made
    exact h.put (Node.distinct_table_iff.mpr Members.distinct_nil)
  · next inner found =>
    cases made
    have old := Node.distinct_table_iff.mp (h.of_lookup found)
    exact h.put (Node.distinct_table_iff.mpr old)
  · cases made

theorem openElement_distinct {path : List String} {name : String} {root changed : Members}
    (h : root.Distinct) (opened : openElement path name root = some changed) :
    changed.Distinct := by
  refine within_distinct ?_ h opened
  intro origin members changed h made
  split at made
  · cases made
    exact h.put (Node.distinct_series_iff.mpr (by simp [Members.distinct_nil]))
  · next earlier latest found =>
    cases made
    have old := Node.distinct_series_iff.mp (h.of_lookup found)
    refine h.put (Node.distinct_series_iff.mpr ?_)
    intro t ht
    rcases List.mem_append.mp ht with before | last
    · exact old t before
    · rw [List.mem_singleton.mp last]
      exact Members.distinct_nil
  · cases made

/-! ## From the tree to values -/

theorem membersToValues_eq (members : Members) :
    membersToValues members = members.map (fun m => (m.1, m.2.toValue)) := by
  induction members with
  | nil => rfl
  | cons m rest ih => rw [membersToValues, ih, List.map_cons]

theorem seriesToValues_eq (tables : List Members) :
    seriesToValues tables = tables.map (fun t => .table (membersToValues t)) := by
  induction tables with
  | nil => rfl
  | cons t rest ih => rw [seriesToValues, ih, List.map_cons]

theorem map_fst_membersToValues (members : Members) :
    (membersToValues members).map Prod.fst = members.map Prod.fst := by
  rw [membersToValues_eq, List.map_map]
  rfl

theorem distinct_table_membersToValues {members : Members}
    (names : (members.map Prod.fst).Nodup) (inner : ∀ m ∈ members, m.2.toValue.Distinct) :
    (Value.table (membersToValues members)).Distinct := by
  refine .table (by rwa [map_fst_membersToValues]) ?_
  rw [membersToValues_eq, List.forall_mem_map]
  exact inner

theorem Node.distinct_toValue {node : Node} (h : node.Distinct) : node.toValue.Distinct := by
  induction h with
  | value h =>
    rw [toValue]
    exact h
  | table origin names inner ih =>
    rw [toValue]
    exact distinct_table_membersToValues names ih
  | @series earlier latest names inner ih =>
    rw [toValue, seriesToValues_eq]
    refine .array ?_
    intro v hv
    have listed : v ∈ (earlier ++ [latest]).map (fun t => .table (membersToValues t)) := by
      simpa using hv
    obtain ⟨t, ht, rfl⟩ := List.mem_map.mp listed
    exact distinct_table_membersToValues (names t ht) (ih t ht)

theorem Members.Distinct.toValue {members : Members} (h : members.Distinct) :
    (Value.table (membersToValues members)).Distinct :=
  distinct_table_membersToValues h.names (fun m hm => Node.distinct_toValue (h.inner m hm))

/-! ## Reading -/

theorem readScalar_yields : readScalar.Yields Value.Distinct := by
  unfold readScalar
  refine yields_bind fun c => ?_
  split
  · exact yields_bind fun s => yields_pure (.string s)
  · exact yields_bind fun s => yields_pure (.string s)
  · exact yields_bind fun _ => yields_pure (.boolean true)
  · exact yields_bind fun _ => yields_pure (.boolean false)
  · refine Yields.orElse ?_ (Yields.orElse ?_ ?_)
    · exact yields_bind fun d => yields_pure (.datetime d)
    · exact yields_bind fun x => yields_pure (.float x)
    · exact yields_bind fun n => yields_bind fun _ => yields_pure (.integer n)

variable {item : Reader Value}

theorem readItems_yields (h : item.Yields Value.Distinct) :
    (readItems item).Yields (fun items => ∀ v ∈ items, v.Distinct) := by
  refine yields_iterate (I := fun done => ∀ v ∈ done, v.Distinct) ?_ nofun
  intro done kept
  refine yields_bind fun _ => yields_bind fun c => ?_
  split_ifs
  · refine yields_bind fun _ => yields_pure ?_
    intro v hv
    exact kept v (List.mem_reverse.mp hv)
  · refine h.bind fun v hv => ?_
    have kept := List.forall_mem_cons.mpr ⟨hv, kept⟩
    refine yields_bind fun _ => yields_bind fun c => ?_
    split
    · exact yields_pure kept
    · refine yields_pure ?_
      intro v hv
      exact kept v (List.mem_reverse.mp hv)
    · exact yields_failure

theorem readPairs_yields (h : item.Yields Value.Distinct) :
    (readPairs item).Yields Members.Distinct := by
  refine yields_bind fun _ => yields_bind fun c => ?_
  split_ifs
  · exact yields_bind fun _ => yields_pure Members.distinct_nil
  · refine yields_iterate (I := Members.Distinct) ?_ Members.distinct_nil
    intro members kept
    refine yields_bind fun key => yields_bind fun split => yields_bind fun _ => ?_
    refine yields_bind fun _ => h.bind fun v hv => yields_bind fun _ => ?_
    refine (yields_ofOption fun _ added => addValue_distinct kept hv added).bind ?_
    intro members kept
    refine yields_bind fun c => ?_
    split
    · exact yields_pure kept
    · exact yields_pure kept
    · exact yields_failure

theorem readValue_yields (depth : Nat) : (readValue depth).Yields Value.Distinct := by
  induction depth with
  | zero => exact readScalar_yields
  | succ depth ih =>
    refine yields_bind fun c => ?_
    split
    · refine yields_bind fun _ => (readItems_yields ih).bind fun items inner => ?_
      exact yields_pure (.array inner)
    · refine yields_bind fun _ => (readPairs_yields ih).bind fun members h => ?_
      exact yields_pure h.toValue
    · exact readScalar_yields

variable {d : Draft}

theorem readPair_yields (h : d.root.Distinct) :
    (readPair d).Yields (fun d => d.root.Distinct) := by
  refine yields_bind fun key => yields_bind fun split => yields_bind fun _ => ?_
  refine yields_bind fun _ => (readValue_yields _).bind fun v hv => yields_bind fun _ => ?_
  refine yields_ofOption fun d' added => ?_
  obtain ⟨root, grown, rfl⟩ := Option.map_eq_some_iff.mp added
  exact within_distinct (fun _ _ _ kept added => addValue_distinct kept hv added) h grown

theorem readHeader_yields (h : d.root.Distinct) :
    (readHeader d).Yields (fun d => d.root.Distinct) := by
  refine yields_bind fun _ => yields_bind fun c => ?_
  dsimp only
  split_ifs
  · refine yields_bind fun _ => yields_bind fun key => yields_bind fun split => ?_
    refine yields_bind fun _ => yields_bind fun _ => yields_bind fun _ => ?_
    refine (yields_ofOption fun _ opened => openElement_distinct h opened).bind fun root kept => ?_
    exact yields_pure kept
  · refine yields_bind fun key => yields_bind fun split => ?_
    refine yields_bind fun _ => yields_bind fun _ => ?_
    refine (yields_ofOption fun _ opened => openTable_distinct h opened).bind fun root kept => ?_
    exact yields_pure kept

theorem readLines_yields : readLines.Yields Members.Distinct := by
  refine yields_iterate (I := fun d => d.root.Distinct) ?_ Members.distinct_nil
  intro d kept
  refine yields_bind fun _ => yields_bind fun c => ?_
  split
  · exact yields_pure kept
  · exact yields_bind fun _ => yields_pure kept
  · exact yields_bind fun _ => yields_pure kept
  · exact yields_bind fun _ => yields_pure kept
  · exact (readHeader_yields kept).bind fun d kept => yields_pure kept
  · exact (readPair_yields kept).bind fun d kept => yields_pure kept

/-- No table in what a document denotes names a member twice. -/
theorem distinct_of_read? {text : String} {members : List (String × Value)}
    (found : read? text = some members) : (Value.table members).Distinct := by
  obtain ⟨root, taken, rfl⟩ := Option.map_eq_some_iff.mp found
  exact (of_readAll readLines_yields taken).toValue

end RuntimeMonitor.Toml
