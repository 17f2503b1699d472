/-
  TfScale.Control.Migrations

  `init_schema`: what a start of the control plane does to the schema of its database.

  The migrations are applied one after the other, each with its row in `schema_migrations`
  in one transaction, and a process looks for that row before it begins the transaction.
  Two starts can find a migration missing at the same time, and either can die at any
  point.  The second INSERT is refused, so that each migration is applied once; what a
  start leaves behind, the next one completes.

  SQLite is the argument `exec`, which executes a statement on everything but
  `schema_migrations`.
-/

import TfScale.Lib.Fallible
import TfScale.Lib.Run
import TfScale.Lib.Table
import TfScale.Lib.Text

namespace TfScale.Control

structure Migration where
  version : Int
  name : String
  sql : String
deriving DecidableEq, Repr

def initialSql : String :=
"CREATE TABLE IF NOT EXISTS auth_keys (
    id TEXT PRIMARY KEY,
    key_hash TEXT NOT NULL UNIQUE,
    description TEXT,
    expires_at TEXT,
    used_at TEXT,
    reusable INTEGER NOT NULL DEFAULT 0,
    created_at TEXT NOT NULL DEFAULT CURRENT_TIMESTAMP,
    revoked_at TEXT
);

CREATE TABLE IF NOT EXISTS devices (
    id TEXT PRIMARY KEY,
    network_id TEXT NOT NULL,
    hostname TEXT NOT NULL,
    machine_key TEXT NOT NULL UNIQUE,
    node_key TEXT NOT NULL,
    backend_type TEXT NOT NULL,
    backend_public_credential TEXT NOT NULL,
    ipv4 TEXT NOT NULL UNIQUE,
    os TEXT NOT NULL,
    arch TEXT NOT NULL,
    client_version TEXT NOT NULL,
    last_seen_at TEXT,
    created_at TEXT NOT NULL DEFAULT CURRENT_TIMESTAMP,
    updated_at TEXT NOT NULL DEFAULT CURRENT_TIMESTAMP,
    deleted_at TEXT
);

CREATE TABLE IF NOT EXISTS ip_allocations (
    id TEXT PRIMARY KEY,
    network_id TEXT NOT NULL,
    device_id TEXT NOT NULL,
    ip TEXT NOT NULL UNIQUE,
    state TEXT NOT NULL,
    created_at TEXT NOT NULL DEFAULT CURRENT_TIMESTAMP,
    released_at TEXT
);

CREATE TABLE IF NOT EXISTS network_backends (
    id TEXT PRIMARY KEY,
    network_id TEXT NOT NULL,
    backend_type TEXT NOT NULL,
    capabilities TEXT NOT NULL DEFAULT '\x7b\x7d',
    config TEXT NOT NULL DEFAULT '\x7b\x7d',
    created_at TEXT NOT NULL DEFAULT CURRENT_TIMESTAMP,
    updated_at TEXT NOT NULL DEFAULT CURRENT_TIMESTAMP
);

CREATE TABLE IF NOT EXISTS endpoints (
    id TEXT PRIMARY KEY,
    device_id TEXT NOT NULL,
    kind TEXT NOT NULL,
    address TEXT NOT NULL,
    port INTEGER NOT NULL,
    protocol TEXT NOT NULL,
    source TEXT,
    latency_ms INTEGER,
    last_seen_at TEXT NOT NULL DEFAULT CURRENT_TIMESTAMP
);
"

def endpointMetadataSql : String :=
"ALTER TABLE endpoints ADD COLUMN priority INTEGER;
ALTER TABLE endpoints ADD COLUMN expires_at TEXT;
"

def dnsRecordsSql : String :=
"CREATE TABLE IF NOT EXISTS dns_records (
    id TEXT PRIMARY KEY,
    network_id TEXT NOT NULL,
    device_id TEXT NOT NULL,
    name TEXT NOT NULL,
    type TEXT NOT NULL,
    value TEXT NOT NULL,
    created_at TEXT NOT NULL DEFAULT CURRENT_TIMESTAMP,
    updated_at TEXT NOT NULL DEFAULT CURRENT_TIMESTAMP
);

CREATE UNIQUE INDEX IF NOT EXISTS idx_dns_records_network_name_type
ON dns_records(network_id, lower(name), type);

CREATE UNIQUE INDEX IF NOT EXISTS idx_dns_records_device_type
ON dns_records(device_id, type);
"

def endpointLookupIndexSql : String :=
"CREATE INDEX IF NOT EXISTS idx_endpoints_device_expiry
ON endpoints (device_id, expires_at);
"

/-- `MIGRATIONS` -/
def migrations : List Migration :=
  [⟨1, "initial", initialSql⟩,
   ⟨2, "endpoint_metadata", endpointMetadataSql⟩,
   ⟨3, "dns_records", dnsRecordsSql⟩,
   ⟨4, "endpoint_lookup_index", endpointLookupIndexSql⟩]

/-- `migration_statements` -/
def migrationStatements (sql : String) : List String :=
  (((sql.toList.splitOn ';').map Text.trim).filter (· ≠ [])).map String.ofList

/-- A row of `schema_migrations`. -/
structure MigrationRow where
  version : Int
  name : String
deriving DecidableEq, Repr

/-- `version INTEGER PRIMARY KEY` -/
instance : Schema MigrationRow where
  clash r s := r.version == s.version
  clash_comm _ _ := Bool.beq_comm

def Migration.row (m : Migration) : MigrationRow := ⟨m.version, m.name⟩

variable {S : Type}

/-- The database: the table `schema_migrations`, if there is one, and the rest of it. -/
structure SchemaStore (S : Type) where
  schema : S
  schemaMigrations : Option (Table MigrationRow)

namespace SchemaStore

variable (exec : String → S → Except String S)

/-- `CREATE TABLE IF NOT EXISTS schema_migrations` -/
def created (store : SchemaStore S) : SchemaStore S :=
  { store with schemaMigrations := some (store.schemaMigrations.getD .empty) }

/-- The statements of a migration. -/
def execute (m : Migration) (schema : S) : Except String S :=
  (migrationStatements m.sql).foldlM (fun schema statement => exec statement schema) schema

/-- The transaction of a migration; an error rolls it back. -/
def applyMigration (m : Migration) (store : SchemaStore S) : Except String (SchemaStore S) := do
  let schema ← execute exec m store.schema
  match store.schemaMigrations with
  | none => .error "no such table: schema_migrations"
  | some table =>
      match table.insert m.row with
      | none => .error "UNIQUE constraint failed: schema_migrations.version"
      | some table => .ok ⟨schema, some table⟩

end SchemaStore

/-- A call of `init_schema`, by what it does next. -/
inductive Boot where
  | creating
  | checking (rest : List Migration)
  | applying (m : Migration) (rest : List Migration)
  | returned (result : Except String Unit)

/-- The next query or transaction of a call, for the migrations `ms`. -/
def Boot.next (exec : String → S → Except String S) (ms : List Migration) (store : SchemaStore S) :
    Boot → Boot × SchemaStore S
  | .creating => (.checking ms, store.created)
  | .checking [] => (.returned (.ok ()), store)
  | .checking (m :: rest) =>
      match store.schemaMigrations with
      | none => (.returned (.error "no such table: schema_migrations"), store)
      | some table =>
          if table.rows.any (·.version = m.version) then (.checking rest, store)
          else (.applying m rest, store)
  | .applying m rest =>
      match store.applyMigration exec m with
      | .error error => (.returned (.error error), store)
      | .ok store' => (.checking rest, store')
  | .returned result => (.returned result, store)

/-- A database, and the calls of `init_schema` on it. -/
structure Boots (S : Type) where
  store : SchemaStore S
  boots : List Boot

inductive BootEvent where
  | start
  | advance (i : Nat)
  /-- a query fails, or the process dies -/
  | stop (i : Nat) (message : String)
deriving DecidableEq, Repr

namespace Boots

variable (exec : String → S → Except String S) (ms : List Migration)

/-- An empty database. -/
def empty (schema : S) : Boots S := ⟨⟨schema, none⟩, []⟩

def step (st : Boots S) : BootEvent → Option (Boots S)
  | .start => some { st with boots := st.boots ++ [.creating] }
  | .advance i => st.boots[i]?.map fun boot =>
      ⟨(boot.next exec ms st.store).2, st.boots.set i (boot.next exec ms st.store).1⟩
  | .stop i message => st.boots[i]?.map fun _ =>
      { st with boots := st.boots.set i (.returned (.error message)) }

end Boots

-- ============================================================================
-- How far the database is
-- ============================================================================

section Progress

open SchemaStore

variable {exec : String → S → Except String S} {ms rest : List Migration} {m : Migration} {s₀ full : S}
variable {n k : Nat} {store store' : SchemaStore S} {table : Table MigrationRow}

/-- The migrations one after the other. -/
def executeAll (exec : String → S → Except String S) (ms : List Migration) (schema : S) : Except String S :=
  ms.foldlM (fun schema m => execute exec m schema) schema

/-- The database that the first `n` migrations give. -/
structure Migrated (exec : String → S → Except String S) (ms : List Migration) (s₀ : S) (n : Nat)
    (store : SchemaStore S) : Prop where
  le : n ≤ ms.length
  schema : executeAll exec (ms.take n) s₀ = .ok store.schema
  rows : ∀ table, store.schemaMigrations = some table → table.rows = (ms.take n).map Migration.row
  fresh : store.schemaMigrations = none → n = 0

/-- A call has gone through no more migrations than the database has. -/
def Boot.Fits (ms : List Migration) (n : Nat) (store : SchemaStore S) : Boot → Prop
  | .creating => True
  | .checking rest => store.schemaMigrations.isSome = true ∧ ∃ k ≤ n, ms.drop k = rest
  | .applying m rest => store.schemaMigrations.isSome = true ∧ ∃ k ≤ n, ms.drop k = m :: rest
  | .returned (.ok _) => n = ms.length
  | .returned (.error _) => True

theorem getElem?_of_drop (h : ms.drop k = m :: rest) : ms[k]? = some m := by
  rw [← List.head?_drop, h]
  rfl

theorem drop_succ (h : ms.drop k = m :: rest) : ms.drop (k + 1) = rest := by
  rw [← List.drop_drop, h]
  rfl

theorem take_succ_of_drop (h : ms.drop k = m :: rest) : ms.take (k + 1) = ms.take k ++ [m] := by
  rw [List.take_add_one, getElem?_of_drop h]
  rfl

/-- The row of a migration is there when the database has the migration. -/
theorem applied_iff (hms : (ms.map (·.version)).Nodup) (h : Migrated exec ms s₀ n store)
    (htable : store.schemaMigrations = some table) (hk : k ≤ n) (hdrop : ms.drop k = m :: rest) :
    table.rows.any (·.version = m.version) = true ↔ k < n := by
  rw [h.rows table htable, List.any_map, List.any_eq_true]
  constructor
  · rintro ⟨m', hm', hversion⟩
    by_contra hnot
    obtain rfl : k = n := by omega
    have hsplit : ms = ms.take k ++ m :: rest := by rw [← hdrop, List.take_append_drop]
    rw [hsplit, List.map_append, List.map_cons] at hms
    have hdisjoint := (List.nodup_append.mp hms).2.2
    exact hdisjoint _ (List.mem_map_of_mem hm') _ List.mem_cons_self (of_decide_eq_true hversion)
  · intro hlt
    refine ⟨m, ?_, decide_eq_true rfl⟩
    have hget := getElem?_of_drop hdrop
    exact List.mem_of_getElem? (by rw [List.getElem?_take_of_lt hlt, hget])

/-- The INSERT of a row is refused exactly when a row of its version is there. -/
theorem free_iff : (∀ row ∈ table.rows, Schema.clash row m.row = false) ↔
    ¬ table.rows.any (·.version = m.version) = true := by
  rw [List.any_eq_true]
  constructor
  · rintro hfree ⟨row, hrow, hversion⟩
    have hclash : (row.version == m.version) = false := hfree row hrow
    rw [of_decide_eq_true hversion, beq_self_eq_true] at hclash
    cases hclash
  · intro hnone row hrow
    refine Bool.eq_false_iff.mpr fun hclash => hnone ⟨row, hrow, ?_⟩
    exact decide_eq_true (eq_of_beq hclash)

theorem executeAll_append (ms later : List Migration) (schema : S) :
    executeAll exec (ms ++ later) schema = executeAll exec ms schema >>= executeAll exec later :=
  List.foldlM_append

theorem executeAll_singleton (m : Migration) (schema : S) : executeAll exec [m] schema = execute exec m schema := by
  show (execute exec m schema >>= fun schema => pure schema) = _
  exact bind_pure _

/-- A transaction that commits is that of a migration which the database does not have. -/
theorem Migrated.apply (hms : (ms.map (·.version)).Nodup) (h : Migrated exec ms s₀ n store) (hk : k ≤ n)
    (hdrop : ms.drop k = m :: rest) (happly : store.applyMigration exec m = .ok store') :
    k = n ∧ Migrated exec ms s₀ (n + 1) store' ∧ store'.schemaMigrations.isSome = true := by
  obtain ⟨schema, hschema, htable⟩ := Fallible.bind_eq_ok.mp happly
  split at htable
  · cases htable
  rename_i table hsome
  split at htable
  · cases htable
  rename_i table' hinsert
  obtain rfl := Except.ok.inj htable
  obtain ⟨hnew, hrows⟩ := Table.insert_eq_some.mp hinsert
  have hnot : ¬ k < n := fun hlt => free_iff.mp hnew ((applied_iff hms h hsome hk hdrop).mpr hlt)
  obtain rfl : k = n := by omega
  have htake := take_succ_of_drop hdrop
  have hlength : k < ms.length := (List.getElem?_eq_some_iff.mp (getElem?_of_drop hdrop)).1
  refine ⟨rfl, ⟨hlength, ?_, fun table hsome' => ?_, fun hnone => by cases hnone⟩, rfl⟩
  · rw [htake, executeAll_append, h.schema]
    exact (executeAll_singleton m store.schema).trans hschema
  · obtain rfl := Option.some.inj hsome'
    rw [hrows, h.rows table hsome, htake, List.map_append]
    rfl

theorem Migrated.created (h : Migrated exec ms s₀ n store) : Migrated exec ms s₀ n store.created where
  le := h.le
  schema := h.schema
  rows := by
    intro table htable
    obtain rfl := Option.some.inj htable
    cases hbefore : store.schemaMigrations with
    | some table => exact h.rows table hbefore
    | none =>
        obtain rfl := h.fresh hbefore
        rfl
  fresh := fun hnone => by cases hnone

/-- What a call has gone through stays applied. -/
theorem Boot.Fits.mono {n' : Nat} {boot : Boot} (h : boot.Fits ms n store) (hle : n ≤ n') (hmost : n' ≤ ms.length)
    (htable : store.schemaMigrations.isSome = true → store'.schemaMigrations.isSome = true) :
    boot.Fits ms n' store' := by
  cases boot with
  | creating => trivial
  | checking rest =>
      obtain ⟨hsome, k, hk, hdrop⟩ := h
      exact ⟨htable hsome, k, hk.trans hle, hdrop⟩
  | applying m rest =>
      obtain ⟨hsome, k, hk, hdrop⟩ := h
      exact ⟨htable hsome, k, hk.trans hle, hdrop⟩
  | returned result =>
      cases result with
      | error e => trivial
      | ok _ =>
          have hall : n = ms.length := h
          show n' = ms.length
          omega

/-- What one query or transaction of a call does to the database, and to the call. -/
theorem Boot.Fits.next (hms : (ms.map (·.version)).Nodup) (h : Migrated exec ms s₀ n store) {boot : Boot}
    (hfits : boot.Fits ms n store) :
    ∃ n', n ≤ n' ∧ Migrated exec ms s₀ n' (boot.next exec ms store).2 ∧
      (boot.next exec ms store).1.Fits ms n' (boot.next exec ms store).2 ∧
      (store.schemaMigrations.isSome = true → (boot.next exec ms store).2.schemaMigrations.isSome = true) := by
  cases boot with
  | creating => exact ⟨n, Nat.le_refl _, h.created, ⟨rfl, 0, Nat.zero_le _, rfl⟩, fun _ => rfl⟩
  | checking rest =>
      obtain ⟨hsome, k, hk, hdrop⟩ := hfits
      cases rest with
      | nil =>
          have hall : ms.length ≤ k := List.drop_eq_nil_iff.mp hdrop
          have hle := h.le
          exact ⟨n, Nat.le_refl _, h, (by omega : n = ms.length), id⟩
      | cons m rest =>
          obtain ⟨table, htable⟩ := Option.isSome_iff_exists.mp hsome
          simp only [Boot.next, htable]
          split
          · rename_i happlied
            have hlt := (applied_iff hms h htable hk hdrop).mp happlied
            exact ⟨n, Nat.le_refl _, h, ⟨hsome, k + 1, hlt, drop_succ hdrop⟩, fun _ => hsome⟩
          · exact ⟨n, Nat.le_refl _, h, ⟨hsome, k, hk, hdrop⟩, fun _ => hsome⟩
  | applying m rest =>
      obtain ⟨hsome, k, hk, hdrop⟩ := hfits
      simp only [Boot.next]
      split
      · exact ⟨n, Nat.le_refl _, h, trivial, id⟩
      · rename_i store' happly
        obtain ⟨rfl, hmore, hsome'⟩ := h.apply hms hk hdrop happly
        exact ⟨k + 1, Nat.le_succ _, hmore, ⟨hsome', k + 1, Nat.le_refl _, drop_succ hdrop⟩, fun _ => hsome'⟩
  | returned result => exact ⟨n, Nat.le_refl _, h, hfits, id⟩

-- ============================================================================
-- Any number of starts
-- ============================================================================

/-- The database has the first migrations, and no call is ahead of it. -/
def Boots.Consistent (exec : String → S → Except String S) (ms : List Migration) (s₀ : S) (st : Boots S) : Prop :=
  ∃ n, Migrated exec ms s₀ n st.store ∧ ∀ boot ∈ st.boots, boot.Fits ms n st.store

theorem consistent_empty : (Boots.empty s₀).Consistent exec ms s₀ := by
  refine ⟨0, ⟨Nat.zero_le _, rfl, fun table htable => ?_, fun _ => rfl⟩, fun boot hboot => ?_⟩
  · cases htable
  · cases hboot

theorem Boots.Consistent.step (hms : (ms.map (·.version)).Nodup) {st st' : Boots S} {e : BootEvent}
    (h : st.Consistent exec ms s₀) (hstep : st.step exec ms e = some st') : st'.Consistent exec ms s₀ := by
  obtain ⟨n, hmigrated, hfits⟩ := h
  cases e with
  | start =>
      obtain rfl := Option.some.inj hstep
      refine ⟨n, hmigrated, fun boot hboot => ?_⟩
      rcases List.mem_append.mp hboot with hold | hnew
      · exact hfits boot hold
      · obtain rfl := List.mem_singleton.mp hnew
        trivial
  | advance i =>
      obtain ⟨boot, hboot, rfl⟩ := Option.map_eq_some_iff.mp hstep
      obtain ⟨n', hle, hmigrated', hfits', htable⟩ := (hfits boot (List.mem_of_getElem? hboot)).next hms hmigrated
      refine ⟨n', hmigrated', fun boot' hboot' => ?_⟩
      rcases List.mem_or_eq_of_mem_set hboot' with hold | rfl
      · exact (hfits boot' hold).mono hle hmigrated'.le htable
      · exact hfits'
  | stop i message =>
      obtain ⟨boot, hboot, rfl⟩ := Option.map_eq_some_iff.mp hstep
      refine ⟨n, hmigrated, fun boot' hboot' => ?_⟩
      rcases List.mem_or_eq_of_mem_set hboot' with hold | rfl
      · exact hfits boot' hold
      · trivial

theorem consistent_of_run (hms : (ms.map (·.version)).Nodup) {events : List BootEvent} {st : Boots S}
    (hrun : run (Boots.step exec ms) (.empty s₀) events = some st) : st.Consistent exec ms s₀ :=
  invariant_run (fun _ _ _ h hstep => Boots.Consistent.step hms h hstep) consistent_empty hrun

-- ============================================================================
-- A start that nobody disturbs
-- ============================================================================

/-- Some queries and transactions of a call, and nothing else. -/
def Boot.alone (exec : String → S → Except String S) (ms : List Migration) :
    Nat → Boot → SchemaStore S → Boot × SchemaStore S
  | 0, boot, store => (boot, store)
  | more + 1, boot, store =>
      Boot.alone exec ms more (boot.next exec ms store).1 (boot.next exec ms store).2

theorem alone_succ (more : Nat) (boot : Boot) :
    boot.alone exec ms (more + 1) store = (boot.next exec ms store).1.alone exec ms more (boot.next exec ms store).2 :=
  rfl

/-- What the call `i` does when nothing else happens. -/
theorem run_alone {st : Boots S} {i : Nat} {boot : Boot} (h : st.boots[i]? = some boot) (more : Nat) :
    run (Boots.step exec ms) st (List.replicate more (.advance i)) =
      some ⟨(boot.alone exec ms more st.store).2, st.boots.set i (boot.alone exec ms more st.store).1⟩ := by
  induction more generalizing st boot with
  | zero =>
      obtain ⟨hlt, hget⟩ := List.getElem?_eq_some_iff.mp h
      have hsame : st.boots.set i boot = st.boots := by
        rw [← hget]
        exact List.set_getElem_self hlt
      show some st = some ⟨st.store, st.boots.set i boot⟩
      rw [hsame]
  | succ more ih =>
      have hlt := (List.getElem?_eq_some_iff.mp h).1
      rw [List.replicate_succ]
      refine run_cons_eq_some.mpr ⟨_, Option.map_eq_some_iff.mpr ⟨boot, h, rfl⟩, ?_⟩
      rw [ih (List.getElem?_set_self hlt), List.set_set]
      rfl

/-- A migration that the database does not have yet can be applied, when it can be after
    those before it. -/
theorem Migrated.apply_ok (hms : (ms.map (·.version)).Nodup) (h : Migrated exec ms s₀ k store)
    (hsome : store.schemaMigrations.isSome = true) (hdrop : ms.drop k = m :: rest)
    (hfull : executeAll exec ms s₀ = .ok full) : ∃ store', store.applyMigration exec m = .ok store' := by
  obtain ⟨table, htable⟩ := Option.isSome_iff_exists.mp hsome
  have hsplit : ms = ms.take k ++ m :: rest := by rw [← hdrop, List.take_append_drop]
  rw [hsplit, executeAll_append] at hfull
  obtain ⟨schema, hschema, hrest⟩ := Fallible.bind_eq_ok.mp hfull
  obtain rfl := Except.ok.inj (h.schema.symm.trans hschema)
  obtain ⟨schema', hexecute, -⟩ := Fallible.bind_eq_ok.mp hrest
  have hnew : ∀ row ∈ table.rows, Schema.clash row m.row = false :=
    free_iff.mpr fun happlied => Nat.lt_irrefl k ((applied_iff hms h htable (Nat.le_refl _) hdrop).mp happlied)
  obtain ⟨table', hinsert⟩ : ∃ table', table.insert m.row = some table' := ⟨_, dif_pos hnew⟩
  refine ⟨⟨schema', some table'⟩, Fallible.bind_eq_ok.mpr ⟨schema', hexecute, ?_⟩⟩
  simp only [htable, hinsert]

/-- A call that has returned, on a database with all migrations. -/
structure Completed (ms : List Migration) (full : S) (boot : Boot) (store : SchemaStore S) : Prop where
  returned : boot = .returned (.ok ())
  schema : store.schema = full
  rows : ∃ table, store.schemaMigrations = some table ∧ table.rows = ms.map Migration.row

theorem completes_checking (hms : (ms.map (·.version)).Nodup) (hfull : executeAll exec ms s₀ = .ok full)
    (h : Migrated exec ms s₀ n store) (hsome : store.schemaMigrations.isSome = true) (hk : k ≤ n)
    (hdrop : ms.drop k = rest) : ∃ more, Completed ms full
      ((Boot.checking rest).alone exec ms more store).1 ((Boot.checking rest).alone exec ms more store).2 := by
  obtain ⟨table, htable⟩ := Option.isSome_iff_exists.mp hsome
  induction rest generalizing store n k table with
  | nil =>
      have hall : ms.length ≤ k := List.drop_eq_nil_iff.mp hdrop
      have hle := h.le
      have htake : ms.take n = ms := List.take_of_length_le (by omega)
      have hschema := h.schema
      have hrows := h.rows table htable
      rw [htake] at hschema hrows
      exact ⟨1, rfl, Except.ok.inj (hschema.symm.trans hfull), table, htable, hrows⟩
  | cons m rest ih =>
      by_cases hlt : k < n
      · -- the migration is there already
        have happlied := (applied_iff hms h htable hk hdrop).mpr hlt
        have hnext : (Boot.checking (m :: rest)).next exec ms store = (.checking rest, store) := by
          simp only [Boot.next, htable, if_pos happlied]
        obtain ⟨more, hcompleted⟩ := ih h hsome hlt (drop_succ hdrop) table htable
        refine ⟨more + 1, ?_⟩
        rw [alone_succ, hnext]
        exact hcompleted
      · obtain rfl : k = n := by omega
        have hmissing : ¬ table.rows.any (·.version = m.version) = true :=
          fun happlied => hlt ((applied_iff hms h htable hk hdrop).mp happlied)
        obtain ⟨store', happly⟩ := h.apply_ok hms hsome hdrop hfull
        obtain ⟨-, hmigrated, hsome'⟩ := h.apply hms hk hdrop happly
        obtain ⟨table', htable'⟩ := Option.isSome_iff_exists.mp hsome'
        have hnext : (Boot.checking (m :: rest)).next exec ms store = (.applying m rest, store) := by
          simp only [Boot.next, htable, if_neg hmissing]
        have hnext' : (Boot.applying m rest).next exec ms store = (.checking rest, store') := by
          simp only [Boot.next, happly]
        obtain ⟨more, hcompleted⟩ := ih hmigrated hsome' (Nat.le_refl _) (drop_succ hdrop) table' htable'
        refine ⟨more + 2, ?_⟩
        rw [alone_succ, hnext, alone_succ, hnext']
        exact hcompleted

end Progress

/-- **The schema survives crashes and rival starts.**  However many processes call
    `init_schema` on one database, in whatever order their queries and transactions come,
    and wherever they fail or die:

    * the database is what some first migrations give, each executed once, and
      `schema_migrations` has exactly their rows;
    * when a call has returned without an error it has them all;
    * when the migrations can be executed one after the other, a further call that
      nobody disturbs completes what is missing. -/
theorem migrations_survive_crashes (exec : String → S → Except String S) (schema : S)
    (events : List BootEvent) (st : Boots S)
    (hrun : run (Boots.step exec migrations) (.empty schema) events = some st) :
    (∃ n, Migrated exec migrations schema n st.store ∧
      ∀ boot ∈ st.boots, boot = .returned (.ok ()) → n = migrations.length) ∧
    ∀ full, executeAll exec migrations schema = .ok full →
      ∃ more st' boot, run (Boots.step exec migrations) st
          (.start :: List.replicate more (.advance st.boots.length)) = some st' ∧
        st'.boots[st.boots.length]? = some boot ∧ Completed migrations full boot st'.store := by
  have hms : (migrations.map (·.version)).Nodup := by decide
  obtain ⟨n, hmigrated, hfits⟩ := consistent_of_run hms hrun
  refine ⟨⟨n, hmigrated, fun boot hboot hreturned => ?_⟩, fun full hfull => ?_⟩
  · have hboot' := hfits boot hboot
    rw [hreturned] at hboot'
    exact hboot'
  · obtain ⟨more, hcompleted⟩ := completes_checking hms hfull hmigrated.created rfl (Nat.zero_le n) rfl
    have hstarted : (st.boots ++ [Boot.creating])[st.boots.length]? = some .creating :=
      List.getElem?_concat_length
    have hrun' : run (Boots.step exec migrations) ⟨st.store, st.boots ++ [.creating]⟩
        (List.replicate (more + 1) (.advance st.boots.length)) = some _ :=
      run_alone hstarted (more + 1)
    refine ⟨more + 1, _, _, run_cons_eq_some.mpr ⟨_, rfl, hrun'⟩, ?_, hcompleted⟩
    exact List.getElem?_set_self (List.getElem?_eq_some_iff.mp hstarted).1

namespace Reference

/-- SQLite where no statement fails, with what has been executed as the schema. -/
def sqlite (statement : String) (schema : List String) : Except String (List String) :=
  .ok (schema ++ [statement])

theorem execute_sqlite (m : Migration) (schema : List String) :
    SchemaStore.execute sqlite m schema = .ok (schema ++ migrationStatements m.sql) := by
  unfold SchemaStore.execute
  induction migrationStatements m.sql generalizing schema with
  | nil => rw [List.append_nil]; rfl
  | cons statement statements ih =>
      rw [List.foldlM_cons]
      exact (ih (schema ++ [statement])).trans (by rw [List.append_assoc]; rfl)

theorem executeAll_sqlite (ms : List Migration) (schema : List String) :
    ∃ full, executeAll sqlite ms schema = .ok full := by
  induction ms generalizing schema with
  | nil => exact ⟨schema, rfl⟩
  | cons m ms ih =>
      obtain ⟨full, hfull⟩ := ih (schema ++ migrationStatements m.sql)
      exact ⟨full, Fallible.bind_eq_ok.mpr ⟨_, execute_sqlite m schema, hfull⟩⟩

/-- Two starts find the first migration missing; one of them applies it, the other one is
    refused, and then the first one dies after the second migration. -/
def rivals : List BootEvent :=
  [.start, .start, .advance 0, .advance 1, .advance 0, .advance 1, .advance 0, .advance 1, .advance 0,
   .advance 0, .stop 0 "killed"]

theorem run_rivals : (run (Boots.step sqlite migrations) (.empty []) rivals).map
    (fun st => st.store.schemaMigrations.map (·.rows)) =
      some (some [⟨1, "initial"⟩, ⟨2, "endpoint_metadata"⟩]) := by
  simp [run, rivals, Boots.step, Boots.empty, Boot.next, SchemaStore.created, SchemaStore.applyMigration,
    execute_sqlite, migrations, Table.insert, Table.empty, Migration.row, Schema.clash, bind, Except.bind]

end Reference

open Reference in
/-- A third start completes what the two have left. -/
theorem migrations_survive_crashes_rivals :
    ∃ st full, run (Boots.step sqlite migrations) (.empty []) rivals = some st ∧
      st.store.schemaMigrations.map (·.rows) = some [⟨1, "initial"⟩, ⟨2, "endpoint_metadata"⟩] ∧
      ∃ more st' boot, run (Boots.step sqlite migrations) st
          (.start :: List.replicate more (.advance st.boots.length)) = some st' ∧
        st'.boots[st.boots.length]? = some boot ∧ Completed migrations full boot st'.store := by
  obtain ⟨st, hst, hrows⟩ := Option.map_eq_some_iff.mp run_rivals
  obtain ⟨full, hfull⟩ := executeAll_sqlite migrations []
  exact ⟨st, full, hst, hrows, (migrations_survive_crashes sqlite [] rivals st hst).2 full hfull⟩

end TfScale.Control
