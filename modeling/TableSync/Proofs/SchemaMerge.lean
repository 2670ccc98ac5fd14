import Mathlib.Data.List.Nodup
import TableSync.Service.Schema

/-!
Merging schema metadata into a sampled schema: the invariant `Described` carries dense numbering,
distinct names and each column's kind and source from the probe through every entry.
-/

namespace TableSync

def MetadataColumn.kind (e : MetadataColumn) : ColumnKind :=
  (e.internalType.map ColumnKind.ofInternalType).getD .unknown

def lastKnownKind (entries : List MetadataColumn) (name : String) : Option ColumnKind :=
  (entries.filterMap fun e => if e.name = name ∧ e.kind ≠ .unknown then some e.kind else none).getLast?

def probedKind (sample : Option Row) (name : String) : ColumnKind :=
  ((sample.bind fun r => r.get name).map ColumnKind.ofValue).getD .unknown

def sampledNames (sample : Option Row) : List String := (sample.map Row.columnNames).getD []

/-- Columns numbered from zero in order, with distinct names, whose kinds and sources are the
functions `kind` and `source` of their names, `kind` giving unknown to every name no column has. -/
structure Described (kind : String → ColumnKind) (source : String → ColumnSource)
    (columns : List Column) : Prop where
  ordinals : columns.map (·.ordinal) = List.range columns.length
  distinct : (columns.map (·.name)).Nodup
  kinds : ∀ c ∈ columns, c.kind = kind c.name
  sources : ∀ c ∈ columns, c.source = source c.name
  absent : ∀ name, name ∉ columns.map (·.name) → kind name = .unknown

/-- What a merged schema is, given the sample and the metadata entries. -/
structure MergeOutcome (sample : Option Row) (entries : List MetadataColumn) (merged : TableSchema) : Prop where
  ordinals : ∀ i (h : i < merged.columns.length), merged.columns[i].ordinal = i
  distinct : merged.columnNames.Nodup
  names : merged.columnNames =
    sampledNames sample ++ ((entries.map (·.name)).removeAll (sampledNames sample)).eraseDups
  kinds : ∀ c ∈ merged.columns, c.kind = (lastKnownKind entries c.name).getD (probedKind sample c.name)
  sources : ∀ c ∈ merged.columns, c.source = .metadata ↔ ∃ e ∈ entries, e.name = c.name

section Lookup

theorem lookup_of_mem {fields : List (String × Json)} (distinct : (fields.map Prod.fst).Nodup)
    {name : String} {value : Json} (mem : (name, value) ∈ fields) : Json.lookup fields name = some value := by
  induction fields with
  | nil => simp at mem
  | cons field rest ih =>
    obtain ⟨key, v⟩ := field
    simp only [List.map_cons, List.nodup_cons, List.mem_map] at distinct
    rcases List.mem_cons.mp mem with same | later
    · cases same
      simp [Json.lookup]
    · have other : key ≠ name := fun same => distinct.1 ⟨(name, value), later, same.symm⟩
      simp only [Json.lookup, other, if_false]
      exact ih distinct.2 later

theorem lookup_of_not_mem {fields : List (String × Json)} {name : String}
    (absent : name ∉ fields.map Prod.fst) : Json.lookup fields name = none := by
  induction fields with
  | nil => rfl
  | cons field rest ih =>
    simp only [List.map_cons, List.mem_cons, not_or] at absent
    simp only [Json.lookup, Ne.symm absent.1, if_false]
    exact ih absent.2

end Lookup

section Probe

variable (table : String) (sample : Option Row)

theorem fromProbe_names : (TableSchema.fromProbe table sample).columns.map (·.name) = sampledNames sample := by
  cases sample with
  | none => rfl
  | some r =>
    have names : ((List.range r.fields.length).zip r.fields).map Prod.snd = r.fields :=
      List.map_snd_zip (by simp)
    simp only [TableSchema.fromProbe, sampledNames, Row.columnNames, Option.map_some, Option.getD_some,
      List.map_map]
    conv => rhs; rw [← names, List.map_map]
    rfl

theorem fromProbe_described (distinct : ∀ r ∈ sample, r.columnNames.Nodup) :
    Described (probedKind sample) (fun _ => .probe) (TableSchema.fromProbe table sample).columns := by
  cases sample with
  | none =>
    exact ⟨rfl, List.nodup_nil, by simp [TableSchema.fromProbe], by simp [TableSchema.fromProbe],
      fun _ _ => rfl⟩
  | some r =>
    have unique : (r.fields.map Prod.fst).Nodup := distinct r rfl
    have names := fromProbe_names table (some r)
    simp only [sampledNames, Option.map_some, Option.getD_some, Row.columnNames] at names
    refine ⟨?_, names ▸ unique, ?_, ?_, ?_⟩
    · have ordinals : ((List.range r.fields.length).zip r.fields).map Prod.fst = List.range r.fields.length :=
        List.map_fst_zip (by simp)
      simp only [TableSchema.fromProbe, Option.map_some, Option.getD_some, List.map_map, List.length_map,
        List.length_zip, List.length_range, Nat.min_self]
      exact ordinals
    · intro c mem
      simp only [TableSchema.fromProbe, Option.map_some, Option.getD_some, List.mem_map] at mem
      obtain ⟨⟨i, name, value⟩, within, rfl⟩ := mem
      have field := (List.of_mem_zip within).2
      simp [probedKind, Row.get, lookup_of_mem unique field]
    · intro c mem
      simp only [TableSchema.fromProbe, Option.map_some, Option.getD_some, List.mem_map] at mem
      obtain ⟨_, _, rfl⟩ := mem
      rfl
    · intro name absent
      rw [names] at absent
      simp [probedKind, Row.get, lookup_of_not_mem absent]

end Probe

section Step

variable {kind : String → ColumnKind} {source : String → ColumnSource} {columns : List Column}

def MetadataColumn.refresh (e : MetadataColumn) (c : Column) : Column :=
  { c with kind := if e.kind == .unknown then c.kind else e.kind, source := .metadata }

theorem update_eq_map (e : MetadataColumn) (distinct : (columns.map (·.name)).Nodup) :
    TableSchema.mergeColumn.update e e.kind columns =
      columns.map fun c => if c.name = e.name then e.refresh c else c := by
  induction columns with
  | nil => rfl
  | cons c rest ih =>
    simp only [List.map_cons, List.nodup_cons, List.mem_map] at distinct
    by_cases named : c.name = e.name
    · have others : ∀ c' ∈ rest, c'.name ≠ e.name := fun c' mem same =>
        distinct.1 ⟨c', mem, same.trans named.symm⟩
      have untouched : (rest.map fun c' => if c'.name = e.name then e.refresh c' else c') = rest := by
        conv => rhs; rw [← List.map_id rest]
        exact List.map_congr_left fun c' mem => if_neg (others c' mem)
      rw [TableSchema.mergeColumn.update, if_pos (beq_iff_eq.mpr named), List.map_cons, if_pos named, untouched]
      rfl
    · simp only [TableSchema.mergeColumn.update, List.map_cons, named, if_false, ih distinct.2,
        beq_iff_eq]

@[simp] theorem refresh_name (e : MetadataColumn) (c : Column) : (e.refresh c).name = c.name := rfl

@[simp] theorem refresh_ordinal (e : MetadataColumn) (c : Column) : (e.refresh c).ordinal = c.ordinal := rfl

theorem refreshed_names (e : MetadataColumn) (columns : List Column) :
    (columns.map fun c => if c.name = e.name then e.refresh c else c).map (·.name) = columns.map (·.name) := by
  rw [List.map_map]
  exact List.map_congr_left fun c _ => by by_cases named : c.name = e.name <;> simp [named]

theorem mergeColumn_cases (e : MetadataColumn) (distinct : (columns.map (·.name)).Nodup) :
    (e.name ∈ columns.map (·.name) ∧
        TableSchema.mergeColumn columns e = columns.map fun c => if c.name = e.name then e.refresh c else c) ∨
      (e.name ∉ columns.map (·.name) ∧
        TableSchema.mergeColumn columns e =
          columns ++ [{ name := e.name, kind := e.kind, ordinal := columns.length, source := .metadata }]) := by
  by_cases known : e.name ∈ columns.map (·.name)
  · have listed : (columns.any fun c => c.name == e.name) = true := by
      simpa [List.any_eq_true] using known
    refine .inl ⟨known, ?_⟩
    rw [TableSchema.mergeColumn, if_pos listed]
    exact update_eq_map e distinct
  · have unlisted : (columns.any fun c => c.name == e.name) = false := by
      simpa [List.any_eq_false] using known
    refine .inr ⟨known, ?_⟩
    rw [TableSchema.mergeColumn, if_neg (by simp [unlisted])]
    rfl

theorem mergeColumn_names (e : MetadataColumn) (distinct : (columns.map (·.name)).Nodup) :
    (TableSchema.mergeColumn columns e).map (·.name) =
      if e.name ∈ columns.map (·.name) then columns.map (·.name) else columns.map (·.name) ++ [e.name] := by
  rcases mergeColumn_cases e distinct with ⟨known, merged⟩ | ⟨fresh, merged⟩
  · rw [if_pos known, merged, refreshed_names]
  · rw [if_neg fresh, merged]
    simp

theorem Described.refreshed (described : Described kind source columns) {e : MetadataColumn}
    (known : e.name ∈ columns.map (·.name)) :
    Described (fun name => if e.name = name ∧ e.kind ≠ .unknown then e.kind else kind name)
      (fun name => if e.name = name then .metadata else source name)
      (columns.map fun c => if c.name = e.name then e.refresh c else c) := by
  have names := refreshed_names e columns
  refine ⟨?_, names ▸ described.distinct, ?_, ?_, ?_⟩
  · rw [List.map_map, List.length_map, ← described.ordinals]
    exact List.map_congr_left fun c _ => by by_cases named : c.name = e.name <;> simp [named]
  · intro c' mem
    obtain ⟨c, within, rfl⟩ := List.mem_map.mp mem
    by_cases named : c.name = e.name
    · by_cases unknown : e.kind = .unknown
      · simp [named, unknown, MetadataColumn.refresh, described.kinds c within]
      · simp [named, unknown, MetadataColumn.refresh]
    · simp [named, Ne.symm named, described.kinds c within]
  · intro c' mem
    obtain ⟨c, within, rfl⟩ := List.mem_map.mp mem
    by_cases named : c.name = e.name
    · simp [named, MetadataColumn.refresh]
    · simp [named, Ne.symm named, described.sources c within]
  · intro name absent
    have other : e.name ≠ name := fun same => absent (names ▸ same ▸ known)
    simp only [other, false_and, if_false]
    exact described.absent name (names ▸ absent)

theorem Described.appended (described : Described kind source columns) {e : MetadataColumn}
    (fresh : e.name ∉ columns.map (·.name)) :
    Described (fun name => if e.name = name ∧ e.kind ≠ .unknown then e.kind else kind name)
      (fun name => if e.name = name then .metadata else source name)
      (columns ++ [{ name := e.name, kind := e.kind, ordinal := columns.length, source := .metadata }]) := by
  have others : ∀ c ∈ columns, e.name ≠ c.name := fun c mem same =>
    fresh (same ▸ List.mem_map_of_mem mem)
  refine ⟨?_, ?_, ?_, ?_, ?_⟩
  · simp [described.ordinals, List.range_succ]
  · rw [List.map_append, List.map_singleton, ← List.concat_eq_append]
    exact described.distinct.concat fresh
  · intro c mem
    rcases List.mem_append.mp mem with old | new
    · simp [others c old, described.kinds c old]
    · obtain rfl := List.mem_singleton.mp new
      -- a new name had no column, so its kind was unknown: an entry without a kind keeps that
      by_cases unknown : e.kind = .unknown
      · simp [unknown, described.absent e.name fresh]
      · simp [unknown]
  · intro c mem
    rcases List.mem_append.mp mem with old | new
    · simp [others c old, described.sources c old]
    · obtain rfl := List.mem_singleton.mp new
      simp
  · intro name absent
    simp only [List.map_append, List.mem_append, not_or] at absent
    have other : e.name ≠ name := fun same => absent.2 (by simp [same])
    simp only [other, false_and, if_false]
    exact described.absent name absent.1

theorem Described.mergeColumn (described : Described kind source columns) (e : MetadataColumn) :
    Described (fun name => if e.name = name ∧ e.kind ≠ .unknown then e.kind else kind name)
      (fun name => if e.name = name then .metadata else source name) (TableSchema.mergeColumn columns e) := by
  rcases mergeColumn_cases e described.distinct with ⟨known, merged⟩ | ⟨fresh, merged⟩
  · rw [merged]
    exact described.refreshed known
  · rw [merged]
    exact described.appended fresh

end Step

section Run

theorem eraseDups_of_nodup {α : Type} [BEq α] [LawfulBEq α] {l : List α} (distinct : l.Nodup) :
    l.eraseDups = l := by
  induction l with
  | nil => rfl
  | cons a rest ih =>
    rw [List.nodup_cons] at distinct
    have kept : rest.filter (fun b => !b == a) = rest := List.filter_eq_self.mpr fun b mem => by
      have other : b ≠ a := ne_of_mem_of_not_mem mem distinct.1
      simpa using other
    rw [List.eraseDups_cons, kept, ih distinct.2]

theorem lastKnownKind_cons_getD (e : MetadataColumn) (rest : List MetadataColumn) (name : String)
    (fallback : ColumnKind) :
    (lastKnownKind (e :: rest) name).getD fallback =
      (lastKnownKind rest name).getD (if e.name = name ∧ e.kind ≠ .unknown then e.kind else fallback) := by
  by_cases known : e.name = name ∧ e.kind ≠ .unknown
  · obtain ⟨rfl, knownKind⟩ := known
    simp [lastKnownKind, knownKind, List.getLast?_cons]
  · simp [lastKnownKind, known]

theorem Described.mergeColumns {kind : String → ColumnKind} {source : String → ColumnSource}
    (entries : List MetadataColumn) {columns : List Column} (described : Described kind source columns) :
    Described (fun name => (lastKnownKind entries name).getD (kind name))
      (fun name => if ∃ e ∈ entries, e.name = name then .metadata else source name)
      (entries.foldl TableSchema.mergeColumn columns) := by
  induction entries generalizing kind source columns with
  | nil => simpa [lastKnownKind] using described
  | cons e rest ih =>
    have next := ih (described.mergeColumn e)
    have kinds : (fun name => (lastKnownKind rest name).getD
        (if e.name = name ∧ e.kind ≠ .unknown then e.kind else kind name)) =
        fun name => (lastKnownKind (e :: rest) name).getD (kind name) :=
      funext fun name => (lastKnownKind_cons_getD e rest name (kind name)).symm
    have sources : (fun name => if ∃ e' ∈ rest, e'.name = name then ColumnSource.metadata
        else if e.name = name then .metadata else source name) =
        fun name => if ∃ e' ∈ e :: rest, e'.name = name then .metadata else source name := by
      funext name
      by_cases later : ∃ e' ∈ rest, e'.name = name <;> by_cases named : e.name = name <;> simp_all
    rw [List.foldl_cons]
    rw [kinds, sources] at next
    exact next

theorem mergeColumns_names (entries : List MetadataColumn) {columns : List Column}
    (distinct : (columns.map (·.name)).Nodup) :
    (entries.foldl TableSchema.mergeColumn columns).map (·.name) =
      (columns.map (·.name) ++ entries.map (·.name)).eraseDups := by
  induction entries generalizing columns with
  | nil => rw [List.foldl_nil, List.map_nil, List.append_nil, eraseDups_of_nodup distinct]
  | cons e rest ih =>
    have step := mergeColumn_names e distinct
    have distinct' : ((TableSchema.mergeColumn columns e).map (·.name)).Nodup := by
      rw [step]
      split
      · exact distinct
      · next fresh => exact List.concat_eq_append ▸ distinct.concat fresh
    rw [List.foldl_cons, ih distinct', step, List.map_cons]
    split
    · next known =>
      have listed : ∃ c ∈ columns, c.name = e.name := List.mem_map.mp known
      rw [List.eraseDups_append, List.eraseDups_append]
      congr 2
      simp [List.removeAll, listed]
    · simp

end Run

theorem foldl_mergeMetadata (calls : List (List MetadataColumn)) (s : TableSchema) :
    calls.foldl TableSchema.mergeMetadata s = s.mergeMetadata calls.flatten := by
  induction calls generalizing s with
  | nil => rfl
  | cons entries rest ih =>
    rw [List.foldl_cons, ih, List.flatten_cons]
    simp [TableSchema.mergeMetadata, List.foldl_append]

/-- After any metadata calls the merged schema numbers its columns densely, repeats no name and
takes each kind from the last known entry. -/
theorem merged_schema_columns (table : String) (sample : Option Row) (calls : List (List MetadataColumn))
    (distinct : ∀ r ∈ sample, r.columnNames.Nodup) :
    MergeOutcome sample calls.flatten
      (calls.foldl TableSchema.mergeMetadata (TableSchema.fromProbe table sample)) := by
  have probe := fromProbe_described table sample distinct
  have columns : (calls.foldl TableSchema.mergeMetadata (TableSchema.fromProbe table sample)).columns =
      calls.flatten.foldl TableSchema.mergeColumn (TableSchema.fromProbe table sample).columns := by
    simp only [foldl_mergeMetadata, TableSchema.mergeMetadata]
  have described := probe.mergeColumns calls.flatten
  rw [← columns] at described
  refine ⟨?_, described.distinct, ?_, described.kinds, ?_⟩
  · intro i bound
    have ordinal := congrArg (·[i]?) described.ordinals
    simp only [List.getElem?_map, List.getElem?_range, bound, List.getElem?_eq_getElem] at ordinal
    simpa using ordinal
  · have sampled := fromProbe_names table sample
    have nodup : (sampledNames sample).Nodup := sampled ▸ probe.distinct
    rw [TableSchema.columnNames, columns, mergeColumns_names _ probe.distinct, sampled, List.eraseDups_append,
      eraseDups_of_nodup nodup]
  · intro c mem
    rw [described.sources c mem]
    split
    · next named => exact ⟨fun _ => named, fun _ => rfl⟩
    · next named => exact ⟨fun probed => (by cases probed), fun found => absurd found named⟩

theorem incident_probe_then_two_metadata_calls :
    (∀ r ∈ some ({ entity := "incident", fields := [("sys_id", .string "a"), ("closed_at", .null)] } : Row),
        r.columnNames.Nodup) ∧
      MergeOutcome (some { entity := "incident", fields := [("sys_id", .string "a"), ("closed_at", .null)] })
        [[{ name := "closed_at", internalType := some "glide_date_time" },
          { name := "short_description", internalType := some "string" }],
          [{ name := "short_description", internalType := none }]].flatten
        ([[{ name := "closed_at", internalType := some "glide_date_time" },
          { name := "short_description", internalType := some "string" }],
          [{ name := "short_description", internalType := none }]].foldl TableSchema.mergeMetadata
          (TableSchema.fromProbe "incident"
            (some { entity := "incident", fields := [("sys_id", .string "a"), ("closed_at", .null)] }))) :=
  have distinct : ∀ r ∈ some ({ entity := "incident", fields := [("sys_id", .string "a"), ("closed_at", .null)] } : Row),
      r.columnNames.Nodup := by
    intro r sampled
    cases sampled
    decide
  ⟨distinct, merged_schema_columns "incident" _ _ distinct⟩

end TableSync
