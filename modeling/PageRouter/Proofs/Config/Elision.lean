import Mathlib.Tactic.Simproc.ExistsAndEq
import PageRouter.Config.Encoding
import PageRouter.Proofs.Data.Record

/-!
# What a configuration need not say

A configuration is written with every default in it, and read back as it was.  It is also read back if
less is written: a field or a section that has its default can be left out, so can the list of routes and
whether a route is exact, and there may be keys that no record has (`Config.reads_back`).

What may be edited is said by leeways, one for each of the three places where defaults stand:

* `Config.sectionLeeway`: a key of a section is spare if the same is written there for the standard
  section;
* `RouteDecl.leeway`: the name and the path of a route have no default, and where it has no view or no
  text, a null may say so;
* `Config.leeway`: a section is spare as a whole, and so are the routes, and all of them can be edited
  in place.

Each of these keeps its record.  What that takes is shown record by record: how it is read field by field
(`isRecordReader`), and that it is read from what is written for it (`isDefaulted`).
-/

set_option autoImplicit false

namespace PageRouter

open Data Data.Value Config

namespace Config

variable {source : Source}

/-! ## Records of a configuration are read field by field -/

@[simp]
theorem fieldOr_table {α : Type} {fields : List (String × Value)} {position : Nat} {key : String}
    {read : Value → Option α} {default : α} :
    fieldOr (.table fields) position key read default =
      (lookup fields key).elim (some default) read := by
  rw [fieldOr, field?]
  cases lookup fields key <;> rfl

@[simp ↓]
theorem guard_isRecord_table {arity : Nat} {fields : List (String × Value)} :
    (guard (source.isRecord arity (.table fields)) : Option Unit) = some () := rfl

def Listener.fields : List (RecordField Listener) :=
  [.withDefault "bind_address" text? bindAddress ({} : Listener).bindAddress,
   .withDefault "max_connections" word? maxConnections ({} : Listener).maxConnections]

theorem Listener.isRecordReader : IsRecordReader (ofValue? source) fields := by
  rintro table ⟨bindAddress, maxConnections⟩
  simp [ofValue?, fields, Option.bind_eq_some_iff]

def Timeouts.fields : List (RecordField Timeouts) :=
  [.withDefault "request_secs" word? requestSecs ({} : Timeouts).requestSecs]

theorem Timeouts.isRecordReader : IsRecordReader (ofValue? source) fields := by
  rintro table ⟨requestSecs⟩
  simp [ofValue?, fields, Option.bind_eq_some_iff]

def Observability.fields (source : Source) : List (RecordField Observability) :=
  [.withDefault "log_level" text? logLevel ({} : Observability).logLevel,
   .withDefault "log_format" (LogFormat.ofValue? source) logFormat ({} : Observability).logFormat,
   .withDefault "metrics_enabled" bool? metricsEnabled ({} : Observability).metricsEnabled,
   .withDefault "metrics_address" text? metricsAddress ({} : Observability).metricsAddress]

theorem Observability.isRecordReader : IsRecordReader (ofValue? source) (fields source) := by
  rintro table ⟨logLevel, logFormat, metricsEnabled, metricsAddress⟩
  simp [ofValue?, fields, Option.bind_eq_some_iff, existsAndEq, -Bool.exists_bool]

def Routing.fields : List (RecordField Routing) :=
  [.withDefault "case_sensitive" bool? caseSensitive ({} : Routing).caseSensitive]

theorem Routing.isRecordReader : IsRecordReader (ofValue? source) fields := by
  rintro table ⟨caseSensitive⟩
  simp [ofValue?, fields, Option.bind_eq_some_iff]

end Config

/-- A field of a route that has no default. -/
def RouteDecl.required (key : String) (get : RouteDecl → String) : RecordField RouteDecl :=
  ⟨key, fun v? => v?.bind text?, get⟩

@[simp]
theorem RouteDecl.key_required {key : String} {get : RouteDecl → String} :
    (required key get).key = key := rfl

@[simp]
theorem RouteDecl.gives_required {key : String} {get : RouteDecl → String} {d : RouteDecl}
    {v? : Option Value} : (required key get).Gives d v? ↔ v? = some (.text (get d)) := by
  simp [required, RecordField.Gives, Option.bind_eq_some_iff]

def RouteDecl.fields : List (RecordField RouteDecl) :=
  [required "name" name, required "path" path,
   .withDefault "exact" bool? exact false,
   .withDefault "view" (optional? text?) view none,
   .withDefault "text" (optional? text?) text none]

theorem RouteDecl.isRecordReader {source : Source} :
    IsRecordReader (ofValue? source) fields := by
  rintro table ⟨name, path, exact, view, text⟩
  simp [ofValue?, fields, field?, Option.bind_eq_some_iff, existsAndEq, -Bool.exists_bool]

def Config.fields (source : Source) : List (RecordField Config) :=
  [.withDefault "listener" (Listener.ofValue? source) listener {},
   .withDefault "timeouts" (Timeouts.ofValue? source) timeouts {},
   .withDefault "observability" (Observability.ofValue? source) observability {},
   .withDefault "routing" (Routing.ofValue? source) routing {},
   .withDefault "routes" (list? (RouteDecl.ofValue? source)) routes RouteDecl.standard]

theorem Config.isRecordReader {source : Source} :
    IsRecordReader (ofValue? source) (fields source) := by
  rintro table ⟨listener, timeouts, observability, routing, routes⟩
  simp [ofValue?, fields, Option.bind_eq_some_iff, existsAndEq, -Bool.exists_bool]

/-! ## What is written is read -/

namespace Config

variable {source : Source}

@[simp]
theorem word?_wordValue {n : UInt64} : (wordValue n).word? = some n := word?_ofNat_toNat n

theorem Listener.isDefaulted : IsDefaulted (ofValue? source) toValue fields {} where
  reader := isRecordReader
  isTable _ := ⟨_, rfl⟩
  read_write l := by simp [toValue, isRecordReader _ l, fields, lookup_cons]
  read_nil := rfl
  known := by simp [fields, toValue, keys]

theorem Timeouts.isDefaulted : IsDefaulted (ofValue? source) toValue fields {} where
  reader := isRecordReader
  isTable _ := ⟨_, rfl⟩
  read_write t := by simp [toValue, isRecordReader _ t, fields, lookup_cons]
  read_nil := rfl
  known := by simp [fields, toValue, keys]

theorem Observability.isDefaulted :
    IsDefaulted (ofValue? source) toValue (fields source) {} where
  reader := isRecordReader
  isTable _ := ⟨_, rfl⟩
  read_write o := by
    simp [toValue, isRecordReader _ o, fields, lookup_cons, LogFormat.ofValue?,
      LogFormat.ofWord?_word]
  read_nil := rfl
  known := by simp [fields, toValue, keys]

theorem Routing.isDefaulted : IsDefaulted (ofValue? source) toValue fields {} where
  reader := isRecordReader
  isTable _ := ⟨_, rfl⟩
  read_write r := by simp [toValue, isRecordReader _ r, fields, lookup_cons]
  read_nil := rfl
  known := by simp [fields, toValue, keys]

end Config

theorem RouteDecl.ofValue?_toValue {source : Source} (d : RouteDecl) :
    ofValue? source d.toValue = some d := by
  obtain ⟨name, path, exact, view, text⟩ := d
  rw [toValue, isRecordReader]
  cases view <;> cases text <;> simp [fields, optionalField, lookup_cons, optional?]

theorem Config.isDefaulted {source : Source} :
    IsDefaulted (ofValue? source) toValue (fields source) standard where
  reader := isRecordReader
  isTable _ := ⟨_, rfl⟩
  read_write c := by
    rw [toValue, isRecordReader]
    simp [fields, lookup_cons, Listener.isDefaulted.read_write, Timeouts.isDefaulted.read_write,
      Observability.isDefaulted.read_write, Routing.isDefaulted.read_write,
      list?_eq_some_iff, RouteDecl.ofValue?_toValue]
  read_nil := rfl
  known := by simp [fields, toValue, keys]

/-! ## Leeways -/

/-- The leeway of a route.  It need not say that it is not exact, and where it has no view or no text, it
may say so. -/
def RouteDecl.leeway (d : RouteDecl) : Leeway where
  known := ["name", "path", "exact", "view", "text"]
  spare key := key = "exact" ∧ d.exact = false
  nullable key := key = "view" ∧ d.view = none ∨ key = "text" ∧ d.text = none
  within _ _ _ := False

/-- An edit of one route of a list. -/
inductive RoutesEdit (ds : List RouteDecl) : Value → Value → Prop
  | route {items : List Value} {i : Nat} {d : RouteDecl} {v v' : Value} (hd : ds[i]? = some d)
    (hv : items[i]? = some v) (h : TableEdit d.leeway v v') :
    RoutesEdit ds (.list items) (.list (items.set i v'))

namespace Config

/-- The leeway of a section. -/
def sectionLeeway (written defaults : Value) : Leeway :=
  .ofDefaults written defaults fun _ _ _ => False

/-- The edits of what stands under a key of a configuration. -/
def EditWithin (c : Config) : String → Value → Value → Prop
  | "listener" => TableEdit (sectionLeeway c.listener.toValue ({} : Listener).toValue)
  | "timeouts" => TableEdit (sectionLeeway c.timeouts.toValue ({} : Timeouts).toValue)
  | "observability" =>
    TableEdit (sectionLeeway c.observability.toValue ({} : Observability).toValue)
  | "routing" => TableEdit (sectionLeeway c.routing.toValue ({} : Routing).toValue)
  | "routes" => RoutesEdit c.routes
  | _ => fun _ _ => False

/-- The leeway of a configuration. -/
def leeway (c : Config) : Leeway := .ofDefaults c.toValue standard.toValue c.EditWithin

end Config

theorem RouteDecl.leeway_keeps (d : RouteDecl) : d.leeway.Keeps fields d where
  known := by simp [fields, leeway]
  spare := by simp [fields, leeway]
  nullable := by simp +contextual [fields, leeway, optional?]
  within _ _ _ _ h := h.elim

namespace Config

variable {source : Source}

/-- A route is read from where it stands in the list, so that is where it can be edited. -/
theorem list?_of_routesEdit {ds : List RouteDecl} {v v' : Value} (hedit : RoutesEdit ds v v')
    (h : list? (RouteDecl.ofValue? source) v = some ds) :
    list? (RouteDecl.ofValue? source) v' = some ds := by
  obtain @⟨items, i, d, v, v', hd, hv, hedit⟩ := hedit
  have hroute : RouteDecl.ofValue? source v = some d := by
    have hmap := list?_eq_some_iff.1 h
    have hi := congrArg (·[i]?) hmap
    simpa [hv, hd] using hi
  exact list?_set h hd (RouteDecl.isRecordReader.of_edit d.leeway_keeps hedit hroute)

theorem leeway_keeps (c : Config) : c.leeway.Keeps (fields source) c := by
  refine isDefaulted.keeps ?_
  -- one goal for each key, with the edits that are allowed there
  simp only [fields, List.forall_mem_cons, RecordField.key_withDefault,
    RecordField.gives_withDefault, Option.elim_some]
  exact ⟨fun _ _ => Listener.isDefaulted.of_edit, fun _ _ => Timeouts.isDefaulted.of_edit,
    fun _ _ => Observability.isDefaulted.of_edit, fun _ _ => Routing.isDefaulted.of_edit,
    fun _ _ => list?_of_routesEdit, List.forall_mem_nil _⟩

theorem ofValue?_of_edits {c : Config} {v : Value}
    (h : Relation.ReflTransGen (TableEdit c.leeway) c.toValue v) : ofValue? source v = some c :=
  isRecordReader.of_edits c.leeway_keeps h (isDefaulted.read_write c)

end Config

/-! ## What is missing and what is empty -/

/-- What stands for a text that a record need not have. -/
def IsOptionalText (v? : Option Value) : Option String → Prop
  | some s => v? = some (.text s)
  | none => v? = none ∨ v? = some .null

theorem isOptionalText_iff {v? : Option Value} {s? : Option String} :
    IsOptionalText v? s? ↔ v?.elim (some none) (optional? text?) = some s? := by
  cases v? with
  | none => cases s? <;> simp [IsOptionalText]
  | some v => cases v <;> cases s? <;> simp [IsOptionalText, optional?, text?]

theorem RouteDecl.ofValue?_table_eq_some_iff {source : Source} {fields : List (String × Value)}
    {d : RouteDecl} :
    ofValue? source (.table fields) = some d ↔
      lookup fields "name" = some (.text d.name) ∧ lookup fields "path" = some (.text d.path) ∧
        (lookup fields "exact" = some (.bool d.exact) ∨
          lookup fields "exact" = none ∧ d.exact = false) ∧
        IsOptionalText (lookup fields "view") d.view ∧
          IsOptionalText (lookup fields "text") d.text := by
  have hexact : ∀ {v? : Option Value}, v?.elim (some false) bool? = some d.exact ↔
      v? = some (.bool d.exact) ∨ v? = none ∧ d.exact = false := by
    rintro (_ | v) <;> simp
  rw [isRecordReader, isOptionalText_iff, isOptionalText_iff, ← hexact]
  simp [RouteDecl.fields]

/-- An empty list of routes is no missing list of routes. -/
theorem Config.ofValue?_of_no_routes {source : Source} {fields : List (String × Value)}
    (h : lookup fields "routes" = some (.list [])) :
    ofValue? source (.table fields) =
      (ofValue? source (.table (without fields "routes"))).map ({· with routes := []}) := by
  have hmap : ∀ {α β γ : Type} (x : Option α) (read : α → Option β) (f : β → γ),
      (x.bind read).map f = x.bind fun a => (read a).map f := fun _ _ _ => Option.map_bind
  simp [ofValue?, lookup_without_of_ne, lookup_without_self, h, list?, hmap]

/-- **A configuration is read back, with its defaults or without them.**  It is read from what is written
for it, after any number of edits within its leeway.  A route has no view exactly if none stands there or a
null does, and the same holds for its text.  An empty list of routes is read as it stands: it does not
become the standard one. -/
theorem Config.reads_back (source : Source) (c : Config) :
    ofValue? source c.toValue = some c ∧
      (∀ v, Relation.ReflTransGen (TableEdit c.leeway) c.toValue v → ofValue? source v = some c) ∧
      (∀ fields d, RouteDecl.ofValue? source (.table fields) = some d ↔
        lookup fields "name" = some (.text d.name) ∧ lookup fields "path" = some (.text d.path) ∧
          (lookup fields "exact" = some (.bool d.exact) ∨
            lookup fields "exact" = none ∧ d.exact = false) ∧
          IsOptionalText (lookup fields "view") d.view ∧
            IsOptionalText (lookup fields "text") d.text) ∧
      ∀ fields, lookup fields "routes" = some (.list []) →
        ofValue? source (.table fields) =
          (ofValue? source (.table (without fields "routes"))).map ({· with routes := []}) :=
  ⟨isDefaulted.read_write c, fun _ => ofValue?_of_edits,
    fun _ _ => RouteDecl.ofValue?_table_eq_some_iff, fun _ => ofValue?_of_no_routes⟩

theorem Config.reads_back_about :
    ofValue? .json (.table
        [("listener", .table [("max_connections", wordValue 7)]),
         ("routes", .list [.table
           [("name", .text "about"), ("path", .text "/about"), ("view", .null),
            ("text", .text "About us")]]),
         ("comment", .null)]) =
        some { listener := { maxConnections := 7 },
               routes := [⟨"about", "/about", false, none, some "About us"⟩] } ∧
      ofValue? .json (.table [("routes", .list [])]) = some { routes := [] } := by
  constructor
  · refine (reads_back .json _).2.1 _ ?_
    -- whole sections go last, as the other edits say where they are made in the table as written
    refine .head (@TableEdit.putIn _ [_, _, _, _, _] [] "comment" .null (by decide)) ?_
    refine .head (@TableEdit.change _ [] _ "listener" _ _
      (@TableEdit.takeOut _ _ "bind_address" rfl)) ?_
    refine .head (@TableEdit.change _ [_, _, _, _] _ "routes" _ _
      (@RoutesEdit.route _ _ 0 _ _ _ rfl rfl
        (@TableEdit.putNull _ [_, _] _ "view" (.inl ⟨rfl, rfl⟩) rfl))) ?_
    refine .head (@TableEdit.change _ [_, _, _, _] _ "routes" _ _
      (@RoutesEdit.route _ _ 0 _ _ _ rfl rfl
        (@TableEdit.takeOut _ _ "exact" ⟨rfl, rfl⟩))) ?_
    refine .head (@TableEdit.takeOut _ _ "timeouts" rfl) ?_
    refine .head (@TableEdit.takeOut _ _ "observability" rfl) ?_
    refine .head (@TableEdit.takeOut _ _ "routing" rfl) ?_
    exact .refl
  · exact (reads_back .json {}).2.2.2 _ rfl

end PageRouter
