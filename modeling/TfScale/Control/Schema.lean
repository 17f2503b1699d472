/-
  TfScale.Control.Schema

  The tables of the control plane's database, as the migrations declare them,
  and the clock that `CURRENT_TIMESTAMP` reads.

  The columns that the control plane stamps are held as seconds since the epoch;
  `expires_at` may hold any text that a device reported, so it stays text and is
  compared as SQLite compares text.  Columns that no query reads are left out.
-/

import TfScale.Lib.Table
import TfScale.Lib.Text
import TfScale.Core.Protocol

namespace TfScale.Control

-- ============================================================================
-- Time
-- ============================================================================

/-- Seconds since 1970-01-01 00:00:00 UTC. -/
abbrev Timestamp := Nat

/-- Year, month and day of a day number, in the proleptic Gregorian calendar. -/
def civilFromDays (days : Nat) : Nat × Nat × Nat :=
  -- days are counted from 0000-03-01, in eras of 400 years
  let z := days + 719468
  let dayOfEra := z % 146097
  let yearOfEra := (dayOfEra - dayOfEra / 1460 + dayOfEra / 36524 - dayOfEra / 146096) / 365
  let dayOfYear := dayOfEra - (365 * yearOfEra + yearOfEra / 4 - yearOfEra / 100)
  let month := (5 * dayOfYear + 2) / 153
  let day := dayOfYear - (153 * month + 2) / 5 + 1
  let year := 400 * (z / 146097) + yearOfEra
  if month < 10 then (year, month + 3, day) else (year + 1, month - 9, day)

/-- The last `width` decimal digits of a number. -/
def digits (width n : Nat) : List Char :=
  (List.range width).reverse.map fun i => Nat.digitChar (n / 10 ^ i % 10)

/-- `datetime`: the text `YYYY-MM-DD HH:MM:SS` of a timestamp. -/
def datetime (t : Timestamp) : String :=
  let (year, month, day) := civilFromDays (t / 86400)
  let second := t % 86400
  String.ofList (digits 4 year ++ '-' :: digits 2 month ++ '-' :: digits 2 day ++
    ' ' :: digits 2 (second / 3600) ++ ':' :: digits 2 (second / 60 % 60) ++
    ':' :: digits 2 (second % 60))

example : datetime 1781783999 = "2026-06-18 11:59:59" := by decide +kernel

/-- SQLite's order on text: bytewise. -/
def textLe (a b : String) : Bool := decide (strBytes a ≤ strBytes b)

/-- `expires_at IS NOT NULL AND expires_at <= CURRENT_TIMESTAMP` -/
def expired (now : Timestamp) : Option String → Bool
  | none => false
  | some expiresAt => textLe expiresAt (datetime now)

-- ============================================================================
-- Rows
-- ============================================================================

structure AuthKeyRow where
  id : String
  keyHash : String
  usedAt : Option Timestamp
  reusable : Int
  revokedAt : Option String
deriving DecidableEq

structure DeviceRow where
  id : String
  networkId : String
  hostname : String
  machineKey : String
  nodeKey : String
  backendType : String
  backendPublicCredential : String
  ipv4 : String
  os : String
  arch : String
  clientVersion : String
  lastSeenAt : Option Timestamp
  updatedAt : Timestamp
  deletedAt : Option Timestamp
deriving DecidableEq

structure IpAllocationRow where
  id : String
  networkId : String
  deviceId : String
  ip : String
  state : String
deriving DecidableEq

structure EndpointRow where
  id : String
  deviceId : String
  kind : String
  address : String
  port : UInt16
  protocol : String
  source : Option String
  priority : Option Int
  expiresAt : Option String
  lastSeenAt : Timestamp
deriving DecidableEq

structure DnsRecordRow where
  id : String
  networkId : String
  deviceId : String
  name : String
  recordType : String
  value : String
  updatedAt : Timestamp
deriving DecidableEq

/-- `deleted_at IS NULL` -/
def DeviceRow.live (d : DeviceRow) : Bool := d.deletedAt.isNone

/-- SQLite's `lower`, which folds ASCII letters only. -/
def lower (text : String) : String := String.ofList (text.toList.map Text.toAsciiLowercase)

-- ============================================================================
-- Uniqueness constraints
-- ============================================================================

/-- `id` and `key_hash` -/
instance : Schema AuthKeyRow where
  clash r s := r.id == s.id || r.keyHash == s.keyHash
  clash_comm r s := by
    rw [BEq.comm (a := r.id), BEq.comm (a := r.keyHash)]

/-- `id`, `machine_key` and `ipv4` -/
instance : Schema DeviceRow where
  clash r s := r.id == s.id || r.machineKey == s.machineKey || r.ipv4 == s.ipv4
  clash_comm r s := by
    rw [BEq.comm (a := r.id), BEq.comm (a := r.machineKey), BEq.comm (a := r.ipv4)]

/-- `id` and `ip` -/
instance : Schema IpAllocationRow where
  clash r s := r.id == s.id || r.ip == s.ip
  clash_comm r s := by
    rw [BEq.comm (a := r.id), BEq.comm (a := r.ip)]

/-- `id` -/
instance : Schema EndpointRow where
  clash r s := r.id == s.id
  clash_comm _ _ := BEq.comm

/-- `id`, the index on `(network_id, lower(name), type)` and the index on
    `(device_id, type)` -/
instance : Schema DnsRecordRow where
  clash r s := r.id == s.id ||
    (r.networkId, lower r.name, r.recordType) == (s.networkId, lower s.name, s.recordType) ||
    (r.deviceId, r.recordType) == (s.deviceId, s.recordType)
  clash_comm r s := by
    rw [BEq.comm (a := r.id), BEq.comm (a := (r.networkId, lower r.name, r.recordType)),
      BEq.comm (a := (r.deviceId, r.recordType))]

structure Db where
  authKeys : Table AuthKeyRow
  devices : Table DeviceRow
  ipAllocations : Table IpAllocationRow
  endpoints : Table EndpointRow
  dnsRecords : Table DnsRecordRow

/-- A database to which the migrations were just applied. -/
def Db.empty : Db := ⟨.empty, .empty, .empty, .empty, .empty⟩

theorem deviceClash_eq (d d' : DeviceRow) :
    Schema.clash d d' = (d.id == d'.id || d.machineKey == d'.machineKey || d.ipv4 == d'.ipv4) := rfl

/-- Two rows of one device are one row. -/
theorem device_unique {db : Db} {d d' : DeviceRow} (hd : d ∈ db.devices.rows)
    (hd' : d' ∈ db.devices.rows) (h : d.id = d'.id) : d = d' := by
  refine Table.eq_of_clash hd hd' ?_
  rw [deviceClash_eq, h, beq_self_eq_true, Bool.true_or, Bool.true_or]

end TfScale.Control
