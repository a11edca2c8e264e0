import OpenSase.Frame

/-!
Application classification of `node_classify.c`: the destination port looked up in `port_map`,
and `detect_quic`, which the four-packet loop runs on the buffer of its first slot only.
-/
namespace OpenSase.Classify

/-- `app_id_t`, the values `port_map` and the QUIC check use. -/
def APP_UNKNOWN : ℕ := 0

def APP_HTTP : ℕ := 1

def APP_HTTPS : ℕ := 2

def APP_DNS : ℕ := 3

def APP_QUIC : ℕ := 4

def APP_SSH : ℕ := 5

def APP_RDP : ℕ := 6

def APP_SMTP : ℕ := 7

def APP_IMAP : ℕ := 8

def APP_FTP : ℕ := 9

def APP_MYSQL : ℕ := 10

def APP_POSTGRESQL : ℕ := 11

def APP_MONGODB : ℕ := 12

def APP_REDIS : ℕ := 13

def APP_MEMCACHED : ℕ := 14

def APP_LDAP : ℕ := 15

def APP_KERBEROS : ℕ := 16

def APP_SMB : ℕ := 17

def APP_NFS : ℕ := 18

def APP_RTSP : ℕ := 19

/-- `port_app_mapping_t`. -/
structure PortAppMapping where
  port : ℕ
  appId : ℕ
  qosClass : ℕ
  deriving DecidableEq, Repr

/-- `port_map`, without its `{0, 0, 0}` terminator. -/
def portMap : List PortAppMapping :=
  [⟨80, APP_HTTP, OPENSASE_QOS_DEFAULT⟩, ⟨443, APP_HTTPS, OPENSASE_QOS_DEFAULT⟩,
    ⟨53, APP_DNS, OPENSASE_QOS_REALTIME⟩, ⟨22, APP_SSH, OPENSASE_QOS_BUSINESS_CRITICAL⟩,
    ⟨3389, APP_RDP, OPENSASE_QOS_BUSINESS_CRITICAL⟩, ⟨25, APP_SMTP, OPENSASE_QOS_BULK⟩,
    ⟨143, APP_IMAP, OPENSASE_QOS_DEFAULT⟩, ⟨993, APP_IMAP, OPENSASE_QOS_DEFAULT⟩,
    ⟨21, APP_FTP, OPENSASE_QOS_BULK⟩, ⟨3306, APP_MYSQL, OPENSASE_QOS_BUSINESS_CRITICAL⟩,
    ⟨5432, APP_POSTGRESQL, OPENSASE_QOS_BUSINESS_CRITICAL⟩,
    ⟨27017, APP_MONGODB, OPENSASE_QOS_BUSINESS_CRITICAL⟩,
    ⟨6379, APP_REDIS, OPENSASE_QOS_REALTIME⟩, ⟨11211, APP_MEMCACHED, OPENSASE_QOS_REALTIME⟩,
    ⟨389, APP_LDAP, OPENSASE_QOS_BUSINESS_CRITICAL⟩, ⟨636, APP_LDAP, OPENSASE_QOS_BUSINESS_CRITICAL⟩,
    ⟨88, APP_KERBEROS, OPENSASE_QOS_REALTIME⟩, ⟨445, APP_SMB, OPENSASE_QOS_BUSINESS_CRITICAL⟩,
    ⟨2049, APP_NFS, OPENSASE_QOS_BULK⟩, ⟨554, APP_RTSP, OPENSASE_QOS_REALTIME⟩]

/-- `classify_by_port`: the first entry for the port, else unknown with default QoS. A
zero port meets the terminator first. -/
def classifyByPort (dstPort : ℕ) : ℕ × ℕ :=
  match portMap.find? (·.port == dstPort) with
  | some m => (m.appId, m.qosClass)
  | none => (APP_UNKNOWN, OPENSASE_QOS_DEFAULT)

/-- `detect_quic` with the payload at offset `off` of the packet: UDP, at least five
payload bytes, a long header and a known version. -/
def detectQuic (bs : Bytes) (off payloadLen : ℕ) : Bool :=
  if ipProtocol bs ≠ IP_PROTOCOL_UDP then false
  else if payloadLen < 5 then false
  else if byteAt bs off &&& 0x80 ≠ 0 then
    let version := rd32 bs (off + 1)
    version == 0x00000001 || version == 0x6b3343cf || version == 0xff000000
  else false

/-- The destination port the node classifies by: after a 20-byte header for TCP and UDP,
zero otherwise. -/
def classifyDstPort (bs : Bytes) : ℕ := (tcpUdpPortsFixed bs).2

/-- The UDP payload length the QUIC check computes in `u32`:
`clib_net_to_host_u16 (ip4->length) - ip_hdr_len - 8`. -/
def quicPayloadLen (bs : Bytes) : ℕ := (ipLength bs + 2 ^ 32 - (ip4HeaderBytes bs + 8)) % 2 ^ 32

/-- The `(app_id, qos)` pair the node computes for a buffer; `checkQuic` holds in slot 0 of
a four-packet iteration only. -/
def classifyApp (checkQuic : Bool) (bs : Bytes) : ℕ × ℕ :=
  if checkQuic ∧ classifyDstPort bs = 443 ∧ ipProtocol bs = IP_PROTOCOL_UDP ∧
      detectQuic bs (ip4HeaderBytes bs + 8) (quicPayloadLen bs) then
    (APP_QUIC, OPENSASE_QOS_BUSINESS_CRITICAL)
  else classifyByPort (classifyDstPort bs)

/-- `opensase_classify_next_t`. -/
inductive ClassifyNext where
  | qos
  | ip4Lookup
  | drop
  deriving DecidableEq, Repr

/-- The `n_next_nodes` of the node's registration: one past the last `ClassifyNext` value. -/
def OPENSASE_CLASSIFY_N_NEXT : ℕ := 3

/-- The stores into the buffer: `app_id`, and `qos_class` unless one was already set. -/
def classifyStore (b : Buffer) (r : ℕ × ℕ) : Buffer × ClassifyNext :=
  (b.withMeta
    { b.meta with
      appId := r.1
      qosClass := if b.meta.qosClass = 0 then r.2 else b.meta.qosClass }, .qos)

/-- One iteration of the four-packet loop. -/
def classifyQuad (s : Unit) (b0 b1 b2 b3 : Buffer) : Unit × List (Buffer × ClassifyNext) :=
  (s, [classifyStore b0 (classifyApp true b0.data), classifyStore b1 (classifyApp false b1.data),
    classifyStore b2 (classifyApp false b2.data), classifyStore b3 (classifyApp false b3.data)])

/-- One iteration of the tail loop. -/
def classifyOne (s : Unit) (b : Buffer) : Unit × (Buffer × ClassifyNext) :=
  (s, classifyStore b (classifyApp false b.data))

/-- The `opensase-classify` node on one frame. -/
def opensaseClassifyNode (frame : List Buffer) : List (Buffer × ClassifyNext) :=
  (vectorLoop classifyQuad classifyOne () frame).2

/-! ### QUIC outside slot 0 -/

/-- A UDP datagram to port 443 whose payload starts a QUIC version 1 long header. -/
def quicInitial : Buffer :=
  { data := udpDatagram 0x0A000001 0xCB00710A 50000 443 [0xC0, 0x00, 0x00, 0x00, 0x01],
    meta := default }

/-- The same QUIC packet is `APP_QUIC` in slot 0 of a four-packet frame, and `APP_HTTPS` in
the other slots and alone in a frame. -/
theorem opensaseClassifyNode_quic_slot_zero_only :
    (opensaseClassifyNode [quicInitial]).map (·.1.meta.appId) = [APP_HTTPS] ∧
      (opensaseClassifyNode [quicInitial, quicInitial, quicInitial, quicInitial]).map
        (·.1.meta.appId) = [APP_QUIC, APP_HTTPS, APP_HTTPS, APP_HTTPS] := by
  decide

end OpenSase.Classify
