import OpenSase.Frame
import Mathlib.Logic.Function.Basic
import Mathlib.Data.Rat.Defs

/-!
The per-worker session lookup of `node_security.c`, keyed by `clib_xxhash (key[0] ^ key[1])`
alone: the stored 5-tuple is never compared with the packet's.
-/
namespace OpenSase.Security

/-- `opensase_session_t`, with the fields the session tracker writes. -/
structure Session where
  srcAddr : ℕ
  dstAddr : ℕ
  srcPort : ℕ
  dstPort : ℕ
  protocol : ℕ
  state : ℕ
  packetsFwd : ℕ
  bytesFwd : ℕ
  lastActive : ℚ
  deriving DecidableEq, Inhabited

def OPENSASE_SESSION_NEW : ℕ := 0

def OPENSASE_ACTION_N_ACTIONS : ℕ := 7

def OPENSASE_MAX_SESSIONS_PER_CORE : ℕ := 2 ^ 20

/-- `opensase_worker_t`: the session arena of `capacity = vec_len (sessions)` slots,
its hash from key to slot index, and the worker's counters. -/
structure Worker where
  sessions : ℕ → Session
  capacity : ℕ
  nSessions : ℕ
  sessionHash : ℕ → Option ℕ
  packetsProcessed : ℕ
  bytesProcessed : ℕ
  packetsDropped : ℕ
  sessionsCreated : ℕ
  policyHits : ℕ → ℕ
  dlpPatternsMatched : ℕ
  dlpBytesInspected : ℕ

/-- `opensase_worker_init` with `max_sessions_per_worker = cap`: a zeroed arena, an
empty hash and zeroed statistics. -/
def opensaseWorkerInit (cap : ℕ) : Worker where
  sessions := fun _ => default
  capacity := cap
  nSessions := 0
  sessionHash := fun _ => none
  packetsProcessed := 0
  bytesProcessed := 0
  packetsDropped := 0
  sessionsCreated := 0
  policyHits := fun _ => 0
  dlpPatternsMatched := 0
  dlpBytesInspected := 0

/-- The 64-bit value `opensase_session_hash` feeds to `clib_xxhash`: `key[0] ^ key[1]`. -/
def sessionKey (e : Endian) (bs : Bytes) (srcPort dstPort : ℕ) : ℕ :=
  xorTupleKey e (ipSrc bs) (ipDst bs) srcPort dstPort (ipProtocol bs)

section Node

variable (e : Endian) (clibXxhash : ℕ → ℕ) (now : ℚ)

def opensaseSessionHash (bs : Bytes) (srcPort dstPort : ℕ) : ℕ :=
  clibXxhash (sessionKey e bs srcPort dstPort)

/-- The session a miss creates: zeroed, then the packet's 5-tuple, state `NEW` and the
current time. -/
def newSession (bs : Bytes) (srcPort dstPort : ℕ) : Session :=
  { (default : Session) with
    srcAddr := ipSrc bs, dstAddr := ipDst bs, srcPort := srcPort, dstPort := dstPort,
    protocol := ipProtocol bs, state := OPENSASE_SESSION_NEW, lastActive := now }

/-- `opensase_session_lookup_or_create`: the index of the returned session (`none` for the
`NULL` return, where `*session_idx = ~0`) and the worker afterwards. -/
def opensaseSessionLookupOrCreate (w : Worker) (bs : Bytes) (srcPort dstPort : ℕ) :
    Option ℕ × Worker :=
  let hash := opensaseSessionHash e clibXxhash bs srcPort dstPort
  match w.sessionHash hash with
  | some idx => (some idx, w)
  | none =>
    if w.capacity ≤ w.nSessions then (none, w)
    else
      (some w.nSessions,
        { w with
          sessions := Function.update w.sessions w.nSessions (newSession now bs srcPort dstPort)
          nSessions := w.nSessions + 1
          sessionHash := Function.update w.sessionHash hash (some w.nSessions)
          sessionsCreated := w.sessionsCreated + 1 })

/-- The statistics update of a found session: one more forward packet of `len` bytes,
active now. -/
def touch (w : Worker) (idx len : ℕ) : Worker :=
  let s := w.sessions idx
  let s' := { s with
    packetsFwd := (s.packetsFwd + 1) % 2 ^ 64
    bytesFwd := (s.bytesFwd + len) % 2 ^ 64
    lastActive := now }
  { w with sessions := Function.update w.sessions idx s' }

/-- `touch` when the lookup returned a session, nothing for `NULL`. -/
def touchIf (w : Worker) : Option ℕ → ℕ → Worker
  | some idx, len => touch now w idx len
  | none, _ => w

/-- `opensase_security_next_t`. -/
inductive SecurityNext where
  | policy
  | drop
  | ip4Lookup
  deriving DecidableEq, Repr

/-- The `n_next_nodes` of the node's registration: one past the last `SecurityNext` value. -/
def OPENSASE_SECURITY_N_NEXT : ℕ := 3

/-- The buffer with `op->session_idx` written and its next node. -/
def securityOut (b : Buffer) (idx : Option ℕ) : Buffer × SecurityNext :=
  (b.withMeta { b.meta with sessionIdx := idx.getD 0xFFFFFFFF },
    if idx.isSome then .policy else .drop)

/-- One iteration of the single-packet loop. -/
def securityOne (w : Worker) (b : Buffer) : Worker × (Buffer × SecurityNext) :=
  let p := tcpUdpPortsFixed b.data
  let r := opensaseSessionLookupOrCreate e clibXxhash now w b.data p.1 p.2
  (touchIf now r.2 r.1 b.lengthInChain, securityOut b r.1)

/-- One iteration of the four-packet loop, in the source's order: the four lookups, then
the four statistics updates. -/
def securityQuad (w : Worker) (b0 b1 b2 b3 : Buffer) : Worker × List (Buffer × SecurityNext) :=
  let p0 := tcpUdpPortsFixed b0.data
  let p1 := tcpUdpPortsFixed b1.data
  let p2 := tcpUdpPortsFixed b2.data
  let p3 := tcpUdpPortsFixed b3.data
  let r0 := opensaseSessionLookupOrCreate e clibXxhash now w b0.data p0.1 p0.2
  let r1 := opensaseSessionLookupOrCreate e clibXxhash now r0.2 b1.data p1.1 p1.2
  let r2 := opensaseSessionLookupOrCreate e clibXxhash now r1.2 b2.data p2.1 p2.2
  let r3 := opensaseSessionLookupOrCreate e clibXxhash now r2.2 b3.data p3.1 p3.2
  let w' := touchIf now (touchIf now (touchIf now (touchIf now r3.2 r0.1 b0.lengthInChain)
    r1.1 b1.lengthInChain) r2.1 b2.lengthInChain) r3.1 b3.lengthInChain
  (w', [securityOut b0 r0.1, securityOut b1 r1.1, securityOut b2 r2.1, securityOut b3 r3.1])

/-- The `opensase-security` node on one frame: the loops, then
`packets_processed += n`. -/
def opensaseSecurityNode (w : Worker) (frame : List Buffer) :
    Worker × List (Buffer × SecurityNext) :=
  let r := vectorLoop (securityQuad e clibXxhash now) (securityOne e clibXxhash now) w frame
  ({ r.1 with packetsProcessed := (r.1.packetsProcessed + frame.length) % 2 ^ 64 }, r.2)

end Node

/-! ### Distinct flows merged by the session key -/

theorem sessionKey_flowB (e : Endian) :
    sessionKey e flowB 744 81 = sessionKey e flowA 1000 80 :=
  xorTupleKey_flowB e

/-- Whatever `clib_xxhash` is, the security node attributes `flowB` to `flowA`'s session:
both buffers go to `opensase-policy` with `session_idx = 0`, session 0 holds `flowA`'s
5-tuple, and it counts both packets. -/
theorem opensaseSecurityNode_merges_flows (e : Endian) (clibXxhash : ℕ → ℕ) (now : ℚ) :
    let r := opensaseSecurityNode e clibXxhash now
      (opensaseWorkerInit OPENSASE_MAX_SESSIONS_PER_CORE)
      [{ data := flowA, meta := default }, { data := flowB, meta := default }]
    r.2.map (fun o => (o.1.meta.sessionIdx, o.2)) = [(0, .policy), (0, .policy)] ∧
      ((r.1.sessions 0).srcAddr, (r.1.sessions 0).dstAddr, (r.1.sessions 0).srcPort,
        (r.1.sessions 0).dstPort, (r.1.sessions 0).protocol) =
        (ipSrc flowA, ipDst flowA, 1000, 80, IP_PROTOCOL_UDP) ∧
      ipSrc flowB ≠ ipSrc flowA ∧ (r.1.sessions 0).packetsFwd = 2 := by
  have hA : tcpUdpPortsFixed flowA = (1000, 80) := by decide
  have hB : tcpUdpPortsFixed flowB = (744, 81) := by decide
  simp only [opensaseSecurityNode, vectorLoop, tailLoop, securityOne, hA, hB,
    opensaseSessionLookupOrCreate, opensaseSessionHash, opensaseWorkerInit, sessionKey_flowB]
  simp [OPENSASE_MAX_SESSIONS_PER_CORE, touchIf, touch, securityOut, newSession]
  decide

end OpenSase.Security
