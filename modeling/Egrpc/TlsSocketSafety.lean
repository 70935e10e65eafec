import Egrpc.TlsSocketConnect
import Mathlib.Data.List.TakeDrop

/-!
# Application bytes flow over verified HTTP/2 connections only

The calls of a `TlsSocket` may come in any order, with any configuration, and
the operating system and OpenSSL may answer in any way.  Whatever happens, a
connected socket has finished a handshake that negotiated `h2`, on an `SSL`
object for its own descriptor that was told before its first `SSL_connect` what
to check the peer's certificate against; no descriptor leaks; and the resolved
addresses are tried in their order.

The journal of calls that `TlsEnv` keeps is what the last three speak about.
-/

namespace Egrpc

namespace TlsCall

/-- The address that a call tries to connect to. -/
def attempt? : TlsCall → Option AddrInfo
  | .connect _ address => some address
  | _ => none

def isApplication : TlsCall → Bool
  | .sslRead | .sslWrite _ _ => true
  | _ => false

def openAfter (fds : List Int) : TlsCall → List Int
  | .socket _ fd => fds ++ [(fd : Int)]
  | .close fd => fds.erase fd
  | _ => fds

end TlsCall

namespace TlsEnv

def openDescriptors (env : TlsEnv) : List Int :=
  env.calls.foldl TlsCall.openAfter []

def attempts (env : TlsEnv) : List AddrInfo :=
  env.calls.filterMap TlsCall.attempt?

def applicationCalls (env : TlsEnv) : List TlsCall :=
  env.calls.filter TlsCall.isApplication

/-- The addresses that the next name resolution answers with. -/
def resolved (env : TlsEnv) : List AddrInfo :=
  match (takeAnswer (.ok [⟨2, [], 16⟩]) env.resolutions).1 with
  | .ok results => results
  | .error _ => []

end TlsEnv

/-- The peer is checked as the target asks: unless verification is switched off,
the context verifies and the host's name or address is installed. -/
def SslConnection.ChecksPeer (platform : Platform)
    (target : Option (Bytes × TlsConfig)) (ssl : SslConnection) : Prop :=
  ∃ host config, target = some (host, config) ∧
    (config.insecureSkipVerifyForTestingOnly = false →
      ssl.context.verifyPeer = true ∧
        if platform.isIpLiteral host then ssl.verifyIp = some host
        else ssl.verifyHost = some host)

/-- A call of the socket's interface. -/
inductive TlsOp
  | startConnect (host : Bytes) (port : Nat) (config : TlsConfig)
  | continueConnect
  | read (len : Nat)
  | write (data : Bytes)
  | close

/-- A socket in use, and what its first `StartConnect` was given. -/
structure TlsClient where
  io : TlsIo
  target : Option (Bytes × TlsConfig) := none

namespace TlsClient

def new (env : TlsEnv) : TlsClient where
  io := { sock := {}, env := { env with calls := [] } }

def step (platform : Platform) (client : TlsClient) : TlsOp → TlsClient
  | .startConnect host port config =>
      { io := (TlsIo.startConnect platform host port config client.io).2
        target :=
          if client.io.sock.state = .idle then some (host, config)
          else client.target }
  | .continueConnect =>
      { client with io := (client.io.continueConnect platform).2 }
  | .read len => { client with io := (client.io.read platform len).2 }
  | .write data => { client with io := (client.io.write platform data).2 }
  | .close => { client with io := client.io.close }

end TlsClient

namespace TlsIo

/-! ## The journal -/

/-- The descriptor field names the only open descriptor, every handshake was set
up to check the peer, and the attempts follow the resolved addresses. -/
structure Kept (platform : Platform) (target : Option (Bytes × TlsConfig))
    (resolved : List AddrInfo) (sent : List TlsCall) (io : TlsIo) : Prop where
  descriptors : io.env.openDescriptors =
    if 0 ≤ io.sock.fd then [io.sock.fd] else []
  handshakes : ∀ ssl answer, .sslConnect ssl answer ∈ io.env.calls →
    ssl.ChecksPeer platform target
  attempts :
    io.env.attempts.Sublist (io.sock.addresses.take io.sock.nextAddress)
  addresses : io.sock.addresses.Sublist resolved
  applicationCalls : io.env.applicationCalls = sent

variable {platform : Platform} {target : Option (Bytes × TlsConfig)}
  {resolved : List AddrInfo} {sent : List TlsCall} {io io' : TlsIo}

theorem openDescriptors_log (io : TlsIo) (call : TlsCall) :
    (io.log call).env.openDescriptors = call.openAfter io.env.openDescriptors := by
  simp [log, TlsEnv.openDescriptors]

theorem attempts_log (io : TlsIo) (call : TlsCall) :
    (io.log call).env.attempts = io.env.attempts ++ call.attempt?.toList := by
  cases call <;> simp [log, TlsEnv.attempts, TlsCall.attempt?]

theorem Kept.applicationCalls_log (kept : Kept platform target resolved sent io)
    (call : TlsCall) :
    (io.log call).env.applicationCalls =
      sent ++ [call].filter TlsCall.isApplication := by
  rw [← kept.applicationCalls]
  exact List.filter_append ..

theorem Kept.applicationCalls_log_none (kept : Kept platform target resolved sent io)
    {call : TlsCall} (other : call.isApplication = false) :
    (io.log call).env.applicationCalls = sent := by
  rw [kept.applicationCalls_log, List.filter_singleton, other]
  exact List.append_nil sent

theorem Kept.handshakes_log (kept : Kept platform target resolved sent io) {call : TlsCall}
    (handshake : ∀ ssl answer, call = .sslConnect ssl answer →
      ssl.ChecksPeer platform target) :
    ∀ ssl answer, .sslConnect ssl answer ∈ (io.log call).env.calls →
      ssl.ChecksPeer platform target := by
  intro ssl answer member
  rcases List.mem_append.mp member with old | new
  · exact kept.handshakes ssl answer old
  · exact handshake ssl answer (List.mem_singleton.mp new).symm

theorem Kept.attempts_log_none (kept : Kept platform target resolved sent io)
    {call : TlsCall} (attempt : call.attempt? = none) :
    (io.log call).env.attempts.Sublist
      (io.sock.addresses.take io.sock.nextAddress) := by
  rw [attempts_log, attempt, Option.toList_none, List.append_nil]
  exact kept.attempts

/-- A call that opens, closes and connects nothing. -/
theorem Kept.log (kept : Kept platform target resolved sent io) (call : TlsCall)
    (opens : ∀ fds, call.openAfter fds = fds) (attempt : call.attempt? = none)
    (handshake : ∀ ssl answer, call = .sslConnect ssl answer →
      ssl.ChecksPeer platform target) :
    Kept platform target resolved (sent ++ [call].filter TlsCall.isApplication)
      (io.log call) where
  descriptors := by
    rw [openDescriptors_log, opens]
    exact kept.descriptors
  handshakes := kept.handshakes_log handshake
  attempts := kept.attempts_log_none attempt
  addresses := kept.addresses
  applicationCalls := kept.applicationCalls_log call

theorem Kept.congr (kept : Kept platform target resolved sent io)
    (fd : io'.sock.fd = io.sock.fd)
    (addresses : io'.sock.addresses = io.sock.addresses)
    (nextAddress : io'.sock.nextAddress = io.sock.nextAddress)
    (calls : io'.env.calls = io.env.calls) :
    Kept platform target resolved sent io' where
  descriptors := by
    rw [TlsEnv.openDescriptors, calls, fd]
    exact kept.descriptors
  handshakes := by
    rw [calls]
    exact kept.handshakes
  attempts := by
    rw [TlsEnv.attempts, calls, addresses, nextAddress]
    exact kept.attempts
  addresses := by
    rw [addresses]
    exact kept.addresses
  applicationCalls := by
    rw [TlsEnv.applicationCalls, calls]
    exact kept.applicationCalls

theorem Kept.closeFd (kept : Kept platform target resolved sent io) :
    Kept platform target resolved sent io.closeFd ∧ io.closeFd.sock.fd < 0 := by
  unfold TlsIo.closeFd
  split_ifs with isOpen
  · have descriptors := kept.descriptors
    rw [if_pos isOpen] at descriptors
    refine ⟨⟨?_, kept.handshakes_log (fun _ _ impossible => nomatch impossible),
      kept.attempts_log_none rfl, kept.addresses,
      kept.applicationCalls_log_none rfl⟩, Int.negSucc_lt_zero 0⟩
    change (io.log (.close io.sock.fd)).env.openDescriptors = []
    rw [openDescriptors_log, descriptors]
    simp [TlsCall.openAfter]
  · exact ⟨kept, not_le.mp isOpen⟩

theorem closeFd_sock (io : TlsIo) :
    ∃ fd, io.closeFd.sock = { io.sock with fd := fd } := by
  unfold TlsIo.closeFd
  split_ifs
  · exact ⟨-1, rfl⟩
  · exact ⟨io.sock.fd, rfl⟩

/-! ## The phases -/

/-- The context that `CreateSslContext` makes. -/
def h2Context (config : TlsConfig) : SslContext where
  minTls12 := true
  alpnProtos := 2 :: Bytes.ofString "h2"
  verifyPeer := !config.insecureSkipVerifyForTestingOnly

/-- The context is there, and the `SSL` object is not. -/
structure Prepared (host : Bytes) (config : TlsConfig) (io : TlsIo) : Prop where
  host : io.sock.host = host
  verifyPeer : io.sock.verifyPeer = !config.insecureSkipVerifyForTestingOnly
  sslCtx : io.sock.sslCtx = some (h2Context config)
  ssl : io.sock.ssl = none

theorem Prepared.moved {host : Bytes} {config : TlsConfig}
    (prepared : io.Prepared host config) {fd : Int} {nextAddress : Nat}
    (sock : io'.sock = { io.sock with fd := fd, nextAddress := nextAddress }) :
    io'.Prepared host config := by
  constructor <;> rw [sock]
  · exact prepared.host
  · exact prepared.verifyPeer
  · exact prepared.sslCtx
  · exact prepared.ssl

structure Bound (platform : Platform) (target : Option (Bytes × TlsConfig))
    (ssl : SslConnection) (io : TlsIo) : Prop where
  current : io.sock.ssl = some ssl
  boundFd : ssl.boundFd = io.sock.fd
  checksPeer : ssl.ChecksPeer platform target

/-- What each state stands for. -/
def Phase (platform : Platform) (target : Option (Bytes × TlsConfig))
    (resolved : List AddrInfo) (io : TlsIo) : Prop :=
  match io.sock.state with
  | .idle =>
      io.sock = { error := io.sock.error } ∧ target = none ∧
        io.env.resolved = resolved
  | .tcpConnecting =>
      0 ≤ io.sock.fd ∧
        ∃ host config, target = some (host, config) ∧ io.Prepared host config
  | .tlsHandshake =>
      0 ≤ io.sock.fd ∧
        ((∃ host config, target = some (host, config) ∧ io.Prepared host config) ∨
          ∃ ssl, io.Bound platform target ssl)
  | .connected =>
      0 ≤ io.sock.fd ∧ ∃ ssl, io.Bound platform target ssl ∧
        .sslConnect ssl (.done (Bytes.ofString "h2")) ∈ io.env.calls
  | .failed | .closed => io.sock.fd < 0

structure Safe (platform : Platform) (target : Option (Bytes × TlsConfig))
    (resolved : List AddrInfo) (sent : List TlsCall) (io : TlsIo) : Prop where
  kept : Kept platform target resolved sent io
  phase : Phase platform target resolved io

theorem Kept.fail (kept : Kept platform target resolved sent io) (message : Bytes) :
    Safe platform target resolved sent (io.fail message) := by
  have released : Kept platform target resolved sent
      { io with sock := { io.sock with
        error := message, state := .failed, desiredEvents := 0,
        ssl := none, sslCtx := none } } := { kept with }
  refine ⟨released.closeFd.1, ?_⟩
  obtain ⟨fd, sock⟩ := closeFd_sock { io with sock := { io.sock with
    error := message, state := .failed, desiredEvents := 0,
    ssl := none, sslCtx := none } }
  have failed : (io.fail message).sock.state = .failed := congrArg (·.state) sock
  rw [Phase, failed]
  exact released.closeFd.2

theorem Kept.failSsl (kept : Kept platform target resolved sent io) (label : Bytes) :
    Safe platform target resolved sent (io.failSsl label) := by
  have printed : Kept platform target resolved sent io.sslErrorQueueString.2 :=
    { kept with }
  exact printed.fail _

/-- Error texts and the answers still to come do not matter. -/
structure Quiet (io io' : TlsIo) : Prop where
  sock : ∃ error, io'.sock = { io.sock with error := error }
  calls : io'.env.calls = io.env.calls
  resolutions : io'.env.resolutions = io.env.resolutions

/-- Nor does it matter what else is called. -/
theorem Phase.mono (phase : Phase platform target resolved io)
    (sock : ∃ error, io'.sock = { io.sock with error := error })
    (calls : io.env.calls ⊆ io'.env.calls)
    (resolutions : io'.env.resolutions = io.env.resolutions) :
    Phase platform target resolved io' := by
  obtain ⟨error, sock⟩ := sock
  obtain ⟨sock', env'⟩ := io'
  subst sock
  unfold Phase at phase ⊢
  cases state : io.sock.state <;> simp only [state] at phase ⊢
  · obtain ⟨isNew, noTarget, isResolved⟩ := phase
    refine ⟨by rw [isNew], noTarget, ?_⟩
    rw [TlsEnv.resolved, resolutions]
    exact isResolved
  · obtain ⟨isOpen, host, config, target, prepared⟩ := phase
    exact ⟨isOpen, host, config, target, { prepared with }⟩
  · obtain ⟨isOpen, ⟨host, config, target, prepared⟩ | ⟨ssl, bound⟩⟩ := phase
    · exact ⟨isOpen, .inl ⟨host, config, target, { prepared with }⟩⟩
    · exact ⟨isOpen, .inr ⟨ssl, { bound with }⟩⟩
  · obtain ⟨isOpen, ssl, bound, done⟩ := phase
    exact ⟨isOpen, ssl, { bound with }, calls done⟩
  · exact phase
  · exact phase

theorem Safe.quiet (safe : Safe platform target resolved sent io) (quiet : Quiet io io') :
    Safe platform target resolved sent io' := by
  obtain ⟨error, sock⟩ := quiet.sock
  exact ⟨safe.kept.congr (by rw [sock]) (by rw [sock]) (by rw [sock]) quiet.calls,
    safe.phase.mono quiet.sock (fun _ member => quiet.calls.symm ▸ member)
      quiet.resolutions⟩

/-! ## Connecting -/

theorem Quiet.trans {io'' : TlsIo} (first : Quiet io io') (second : Quiet io' io'') :
    Quiet io io'' := by
  obtain ⟨error, sock⟩ := first.sock
  obtain ⟨error', sock'⟩ := second.sock
  exact ⟨⟨error', by rw [sock', sock]⟩, second.calls.trans first.calls,
    second.resolutions.trans first.resolutions⟩

theorem loadTrust_quiet (config : TlsConfig) (io : TlsIo) :
    Quiet io (loadTrust config io).2 := by
  unfold loadTrust
  simp only
  split_ifs <;> exact ⟨⟨_, rfl⟩, rfl, rfl⟩

theorem loadIdentity_quiet (config : TlsConfig) (io : TlsIo) :
    Quiet io (loadIdentity config io).2 := by
  unfold loadIdentity
  simp only
  split_ifs <;> exact ⟨⟨_, rfl⟩, rfl, rfl⟩

theorem Quiet.loadIdentity {trust : Bool × TlsIo} (loaded : Quiet io trust.2)
    (config : TlsConfig) :
    Quiet io (if trust.1 = false then (false, trust.2)
      else TlsIo.loadIdentity config trust.2).2 := by
  split
  · exact loaded
  · exact loaded.trans (loadIdentity_quiet config trust.2)

/-- `CreateSslContext` changes what it is for and the error text. -/
theorem createSslContext_spec (config : TlsConfig) (io : TlsIo) :
    ∃ sslCtx verifyPeer, Quiet
      { io with sock.sslCtx := sslCtx, sock.verifyPeer := verifyPeer }
      (createSslContext config io).2 ∧
      ((createSslContext config io).1 = true →
        sslCtx = some (h2Context config) ∧
          verifyPeer = !config.insecureSkipVerifyForTestingOnly) := by
  unfold createSslContext
  simp only
  split
  · exact ⟨_, _, ⟨⟨_, rfl⟩, rfl, rfl⟩, nofun⟩
  split
  · exact ⟨_, _, ⟨⟨_, rfl⟩, rfl, rfl⟩, nofun⟩
  split
  · exact ⟨_, _, ⟨⟨_, rfl⟩, rfl, rfl⟩, nofun⟩
  -- The context is complete; what is loaded into it is not part of the model.
  refine ⟨some (h2Context config), !config.insecureSkipVerifyForTestingOnly, ?_,
    fun _ => ⟨rfl, rfl⟩⟩
  refine Quiet.loadIdentity ?_ config
  split
  · refine Quiet.trans ?_ (loadTrust_quiet config _)
    exact ⟨⟨_, rfl⟩, rfl, rfl⟩
  · exact ⟨⟨_, rfl⟩, rfl, rfl⟩

theorem Kept.openSocket (kept : Kept platform target resolved sent io)
    (closed : io.sock.fd < 0) (address : AddrInfo) :
    Kept platform target resolved sent (io.openSocket address).2 ∧
      (io.openSocket address).2.env.attempts = io.env.attempts ∧
      ∃ fd, (io.openSocket address).2.sock =
        { io.sock with fd := fd, nextAddress := io.sock.nextAddress + 1 } ∧
        ∀ errno, (io.openSocket address).1 = .error errno → fd < 0 := by
  have noneOpen : io.env.openDescriptors = [] := by
    rw [kept.descriptors, if_neg (not_le.mpr closed)]
  have further : (io.sock.addresses.take io.sock.nextAddress).Sublist
      (io.sock.addresses.take (io.sock.nextAddress + 1)) :=
    List.take_sublist_take_left (Nat.le_succ _)
  unfold TlsIo.openSocket
  simp only
  split
  · exact ⟨⟨noneOpen, kept.handshakes, kept.attempts.trans further, kept.addresses,
      kept.applicationCalls⟩, rfl, -1, rfl, fun _ _ => Int.negSucc_lt_zero 0⟩
  · rename_i fd opened
    refine ⟨⟨?_, kept.handshakes_log (fun _ _ impossible => nomatch impossible),
      (kept.attempts_log_none rfl).trans further, kept.addresses,
      kept.applicationCalls_log_none rfl⟩, ?_, fd, rfl, ?_⟩
    · rw [openDescriptors_log]
      exact (congrArg (· ++ [(fd : Int)]) noneOpen).trans
        (if_pos (Int.natCast_nonneg fd)).symm
    · rw [attempts_log]
      exact List.append_nil _
    · intro errno failed
      rw [opened] at failed
      cases failed

theorem Kept.connectSocket (kept : Kept platform target resolved sent io) {fd : Nat}
    {address : AddrInfo}
    (inOrder : (io.env.attempts ++ [address]).Sublist
      (io.sock.addresses.take io.sock.nextAddress)) :
    Kept platform target resolved sent (io.connectSocket fd address).2 where
  descriptors := by
    change (io.log (.connect fd address)).env.openDescriptors = _
    rw [openDescriptors_log]
    exact kept.descriptors
  handshakes := kept.handshakes_log fun _ _ impossible => nomatch impossible
  attempts := by
    change (io.log (.connect fd address)).env.attempts.Sublist _
    rw [attempts_log]
    exact inOrder
  addresses := kept.addresses
  applicationCalls := kept.applicationCalls_log_none rfl

variable {host : Bytes} {config : TlsConfig}

/-- A failed connect is noted and its descriptor closed; the next address may be
tried. -/
theorem Kept.release (kept : Kept platform target resolved sent io)
    (prepared : io.Prepared host config) (message : Bytes) :
    let released := (io.setError message).closeFd
    Kept platform target resolved sent released ∧ released.sock.fd < 0 ∧
      released.Prepared host config ∧
      released.sock.addresses.drop released.sock.nextAddress =
        io.sock.addresses.drop io.sock.nextAddress := by
  have noted : Kept platform target resolved sent (io.setError message) := { kept with }
  have stillPrepared : (io.setError message).Prepared host config := { prepared with }
  obtain ⟨fd, sock⟩ := closeFd_sock (io.setError message)
  refine ⟨noted.closeFd.1, noted.closeFd.2, stillPrepared.moved sock, ?_⟩
  rw [sock]
  rfl

/-- `TryNextAddress` starts and ends with at most the current descriptor open,
and does not touch what was prepared. -/
theorem Kept.tryAddresses {untried : List AddrInfo}
    (kept : Kept platform target resolved sent io) (closed : io.sock.fd < 0)
    (prepared : io.Prepared host config)
    (rest : io.sock.addresses.drop io.sock.nextAddress = untried) :
    Kept platform target resolved sent (tryAddresses platform untried io).2 ∧
      (tryAddresses platform untried io).2.Prepared host config := by
  induction untried generalizing io with
  | nil =>
      unfold TlsIo.tryAddresses
      simp only
      split
      · exact ⟨{ kept with }, { prepared with }⟩
      · exact ⟨kept, prepared⟩
  | cons address untried ih =>
      obtain ⟨opened, sameAttempts, fd, sock, failed⟩ := kept.openSocket closed address
      have reached : io.sock.addresses.take (io.sock.nextAddress + 1) =
          io.sock.addresses.take io.sock.nextAddress ++ [address] := by
        rw [List.take_add, rest]
        rfl
      have remaining : io.sock.addresses.drop (io.sock.nextAddress + 1) = untried := by
        rw [← List.tail_drop, rest]
        rfl
      have inOrder : ((io.openSocket address).2.env.attempts ++ [address]).Sublist
          ((io.openSocket address).2.sock.addresses.take
            (io.openSocket address).2.sock.nextAddress) := by
        rw [sameAttempts, sock, reached]
        exact kept.attempts.append_right [address]
      have stillPrepared : (io.openSocket address).2.Prepared host config :=
        prepared.moved sock
      have left : (io.openSocket address).2.sock.addresses.drop
          (io.openSocket address).2.sock.nextAddress = untried := by
        rw [sock]
        exact remaining
      unfold TlsIo.tryAddresses
      simp only
      split
      · rename_i errno refused
        refine ih { opened with } ?_ { stillPrepared with } left
        change (io.openSocket address).2.sock.fd < 0
        rw [sock]
        exact failed errno refused
      · rename_i descriptor _
        have connected : Kept platform target resolved sent
            ((io.openSocket address).2.connectSocket descriptor address).2 :=
          opened.connectSocket inOrder
        split_ifs
        · exact ⟨{ connected with }, { stillPrepared with }⟩
        · exact ⟨{ connected with }, { stillPrepared with }⟩
        · -- The address refused at once; its descriptor is closed.
          have released := connected.release { stillPrepared with }
          exact ih (released _).1 (released _).2.1 (released _).2.2.1
            ((released _).2.2.2.trans left)

theorem Kept.connecting (kept : Kept platform (some (host, config)) resolved sent io)
    (prepared : io.Prepared host config) (connecting : io.sock.Connecting) :
    Safe platform (some (host, config)) resolved sent io := by
  refine ⟨kept, ?_⟩
  obtain ⟨tcp | tls, isOpen⟩ := connecting
  · rw [Phase, tcp]
    exact ⟨isOpen, host, config, rfl, prepared⟩
  · rw [Phase, tls]
    exact ⟨isOpen, .inl ⟨host, config, rfl, prepared⟩⟩

theorem Kept.createSslContext (kept : Kept platform target resolved sent io)
    (isNew : io.sock = { error := io.sock.error }) (host : Bytes) (config : TlsConfig)
    {created : Bool × TlsIo}
    (creation : TlsIo.createSslContext config { io with sock.host := host } = created) :
    Kept platform target resolved sent created.2 ∧
      (created.2.sock.addresses = [] ∧ created.2.sock.fd < 0) ∧
      created.2.env.resolved = io.env.resolved ∧
      (created.1 = true → created.2.Prepared host config) := by
  obtain ⟨sslCtx, verifyPeer, ⟨⟨error, sock⟩, calls, resolutions⟩, complete⟩ :=
    createSslContext_spec config { io with sock.host := host }
  rw [creation] at sock calls resolutions complete
  obtain ⟨success, sock', env'⟩ := created
  simp only at sock calls resolutions complete ⊢
  subst sock
  refine ⟨kept.congr rfl rfl rfl calls, ⟨?_, ?_⟩, ?_, ?_⟩
  · rw [isNew]
  · rw [isNew]
    exact Int.negSucc_lt_zero 0
  · rw [TlsEnv.resolved, resolutions]
    rfl
  · intro succeeded
    obtain ⟨rfl, rfl⟩ := complete succeeded
    exact ⟨rfl, rfl, rfl, congrArg (·.ssl) isNew⟩

theorem Kept.addAddresses (kept : Kept platform target resolved sent io)
    (empty : io.sock.addresses = [])
    (resolutions : List (Except Int (List AddrInfo))) {usable : List AddrInfo}
    (fromResolver : usable.Sublist resolved) :
    Kept platform target resolved sent
      { io with
        sock.addresses := io.sock.addresses ++ usable
        env.resolutions := resolutions } :=
  { kept with
    attempts := by
      have none := kept.attempts
      rw [empty, List.take_nil, List.sublist_nil] at none
      exact none ▸ List.nil_sublist _
    addresses := by
      rw [empty]
      exact fromResolver }

theorem Safe.startConnect (safe : Safe platform target resolved sent io)
    (idle : io.sock.state = .idle) (host : Bytes) (port : Nat) (config : TlsConfig) :
    Safe platform (some (host, config)) resolved sent
      (startConnect platform host port config io).2 := by
  have phase := safe.phase
  rw [Phase, idle] at phase
  obtain ⟨isNew, noTarget, isResolved⟩ := phase
  have kept : Kept platform (some (host, config)) resolved sent io :=
    { safe.kept with
      handshakes := fun ssl answer member => by
        obtain ⟨_, _, impossible, _⟩ := safe.kept.handshakes ssl answer member
        rw [noTarget] at impossible
        cases impossible }
  unfold TlsIo.startConnect
  rw [if_neg (not_not.mpr idle)]
  generalize creation : TlsIo.createSslContext config { io with sock.host := host } =
    created
  obtain ⟨keptCreated, ⟨empty, closed⟩, sameResolved, prepared⟩ :=
    kept.createSslContext isNew host config creation
  rw [isResolved, TlsEnv.resolved] at sameResolved
  simp only
  split_ifs with failed
  · exact keptCreated.fail _
  · replace prepared := prepared (Bool.eq_true_of_not_eq_false failed)
    split
    · refine Kept.fail ?_ _
      exact { keptCreated with }
    · rename_i results answered
      rw [answered] at sameResolved
      have fromResolver : (results.filter fun info =>
          decide (info.addrlen ≤ sockaddrStorageSize)).Sublist resolved :=
        sameResolved ▸ List.filter_sublist
      have usable := keptCreated.addAddresses empty
        created.2.env.resolutions.tail fromResolver
      obtain ⟨keptTried, preparedTried⟩ :=
        usable.tryAddresses closed { prepared with } rfl
      split_ifs with unusable tried
      · exact usable.fail _
      · exact keptTried.fail _
      · exact keptTried.connecting preparedTried (tryNextAddress_spec platform _
          (Bool.eq_true_of_not_eq_false tried)).1

/-! ## The handshake -/

theorem Kept.handshaking {ssl : SslConnection}
    (kept : Kept platform target resolved sent io) (bound : io.Bound platform target ssl)
    (state : io.sock.state = .tlsHandshake) (isOpen : 0 ≤ io.sock.fd) :
    Safe platform target resolved sent io := by
  refine ⟨kept, ?_⟩
  rw [Phase, state]
  exact ⟨isOpen, .inr ⟨ssl, bound⟩⟩

theorem Kept.sslConnect {ssl : SslConnection}
    (kept : Kept platform target resolved sent io) (bound : io.Bound platform target ssl)
    (state : io.sock.state = .tlsHandshake) (isOpen : 0 ≤ io.sock.fd) :
    Safe platform target resolved sent (sslConnect platform io).2 := by
  have called : io.callSslConnect.2 =
      ({ io with env.handshakes := io.env.handshakes.tail } : TlsIo).log
        (.sslConnect ssl io.callSslConnect.1) := by
    unfold callSslConnect
    simp only
    rw [bound.current]
    rfl
  have keptCalled : Kept platform target resolved sent io.callSslConnect.2 := by
    have answered : Kept platform target resolved sent
        { io with env.handshakes := io.env.handshakes.tail } := { kept with }
    have logged := answered.log (.sslConnect ssl io.callSslConnect.1)
      (fun _ => rfl) rfl fun _ _ same => by
        cases same
        exact bound.checksPeer
    rw [called, ← List.append_nil sent]
    exact logged
  have sock := callSslConnect_sock io
  have done : .sslConnect ssl io.callSslConnect.1 ∈ io.callSslConnect.2.env.calls := by
    rw [called]
    exact List.mem_append_right _ List.mem_cons_self
  have boundCalled : io.callSslConnect.2.Bound platform target ssl :=
    ⟨by rw [sock]; exact bound.current, by rw [sock]; exact bound.boundFd,
      bound.checksPeer⟩
  rw [← sock] at state isOpen
  unfold TlsIo.sslConnect
  simp only
  generalize io.callSslConnect = answer at *
  obtain ⟨outcome, io'⟩ := answer
  cases outcome with
  | done proto =>
      simp only
      split_ifs with other
      · exact keptCalled.fail _
      · refine ⟨{ keptCalled with }, isOpen, ssl, { boundCalled with }, ?_⟩
        rw [← not_not.mp other]
        exact done
  | wantRead => exact Kept.handshaking { keptCalled with } { boundCalled with } state isOpen
  | wantWrite => exact Kept.handshaking { keptCalled with } { boundCalled with } state isOpen
  | failed noApplicationProtocol verify syscall =>
      simp only
      split_ifs
      · exact keptCalled.fail _
      · refine Kept.fail ?_ _
        exact { keptCalled with }

theorem Kept.setVerification {ssl : SslConnection}
    (kept : Kept platform (some (host, config)) resolved sent io)
    (isHost : io.sock.host = host)
    (verifyPeer : io.sock.verifyPeer = !config.insecureSkipVerifyForTestingOnly)
    (context : ssl.context = h2Context config)
    (current : io.sock.ssl = some ssl) (boundFd : ssl.boundFd = io.sock.fd) :
    let set := TlsIo.setVerification platform ssl io
    (set.1 = true → Kept platform (some (host, config)) resolved sent set.2 ∧
      ∃ ssl, set.2.Bound platform (some (host, config)) ssl) ∧
    (set.1 = false → Safe platform (some (host, config)) resolved sent set.2) := by
  have off : io.sock.verifyPeer = false →
      config.insecureSkipVerifyForTestingOnly = true := by
    rw [verifyPeer]
    simp
  have contextVerifies : config.insecureSkipVerifyForTestingOnly = false →
      ssl.context.verifyPeer = true := by
    intro verifies
    rw [context, h2Context, verifies]
    rfl
  subst isHost
  intro set
  unfold set TlsIo.setVerification
  simp only
  split_ifs with isIp verifies noIp noSni verifies noName
  · refine ⟨nofun, fun _ => Kept.failSsl ?_ _⟩
    exact { kept with }
  · refine ⟨fun _ => ⟨{ kept with }, _, rfl, boundFd, _, _, rfl, fun secure => ?_⟩, nofun⟩
    refine ⟨contextVerifies secure, ?_⟩
    rw [if_pos isIp]
  · refine ⟨fun _ => ⟨kept, ssl, current, boundFd, _, _, rfl, fun secure => ?_⟩, nofun⟩
    rw [off (Bool.eq_false_of_not_eq_true verifies)] at secure
    cases secure
  · refine ⟨nofun, fun _ => Kept.failSsl ?_ _⟩
    exact { kept with }
  · refine ⟨nofun, fun _ => Kept.failSsl ?_ _⟩
    exact { kept with }
  · refine ⟨fun _ => ⟨{ kept with }, _, rfl, boundFd, _, _, rfl, fun secure => ?_⟩, nofun⟩
    refine ⟨contextVerifies secure, ?_⟩
    rw [if_neg isIp]
    rfl
  · refine ⟨fun _ => ⟨{ kept with }, _, rfl, boundFd, _, _, rfl, fun secure => ?_⟩, nofun⟩
    rw [off (Bool.eq_false_of_not_eq_true verifies)] at secure
    cases secure

theorem Kept.createSsl (kept : Kept platform (some (host, config)) resolved sent io)
    (prepared : io.Prepared host config) :
    let created := TlsIo.createSsl platform io
    (created.1 = true → Kept platform (some (host, config)) resolved sent created.2 ∧
      ∃ ssl, created.2.Bound platform (some (host, config)) ssl) ∧
    (created.1 = false → Safe platform (some (host, config)) resolved sent created.2) := by
  intro created
  unfold created TlsIo.createSsl
  simp only [prepared.sslCtx]
  split
  · refine ⟨nofun, fun _ => Kept.failSsl ?_ _⟩
    exact { kept with }
  · refine ⟨nofun, fun _ => Kept.failSsl ?_ _⟩
    exact { kept with }
  · rename_i isContext _
    cases isContext
    split_ifs
    · refine ⟨nofun, fun _ => Kept.failSsl ?_ _⟩
      exact { kept with }
    · exact Kept.setVerification { kept with } prepared.host prepared.verifyPeer rfl rfl rfl

theorem Safe.continueTlsHandshake (safe : Safe platform target resolved sent io)
    (state : io.sock.state = .tlsHandshake) :
    Safe platform target resolved sent (continueTlsHandshake platform io).2 := by
  have phase := safe.phase
  rw [Phase, state] at phase
  obtain ⟨isOpen, ⟨host, config, rfl, prepared⟩ | ⟨ssl, bound⟩⟩ := phase
  · unfold TlsIo.continueTlsHandshake
    rw [prepared.ssl]
    obtain ⟨succeeds, fails⟩ := safe.kept.createSsl prepared
    simp only
    split_ifs with created
    · obtain ⟨kept, ssl, bound⟩ := succeeds created
      obtain ⟨sameState, sameFd⟩ := createSsl_frame platform io created
      exact kept.sslConnect bound (sameState.trans state) (sameFd ▸ isOpen)
    · exact fails (Bool.eq_false_of_not_eq_true created)
  · unfold TlsIo.continueTlsHandshake
    rw [bound.current]
    exact safe.kept.sslConnect bound state isOpen

theorem Kept.fallBack (kept : Kept platform (some (host, config)) resolved sent io)
    (closed : io.sock.fd < 0) (prepared : io.Prepared host config) :
    Safe platform (some (host, config)) resolved sent (fallBack platform io).2 := by
  obtain ⟨keptTried, preparedTried⟩ := kept.tryAddresses closed prepared rfl
  unfold TlsIo.fallBack
  simp only
  split_ifs with tried handshaking
  · exact (keptTried.connecting preparedTried
      (tryNextAddress_spec platform io tried).1).continueTlsHandshake handshaking
  · exact keptTried.connecting preparedTried (tryNextAddress_spec platform io tried).1
  · exact keptTried.fail _

theorem Safe.continueConnect (safe : Safe platform target resolved sent io) :
    Safe platform target resolved sent (continueConnect platform io).2 := by
  unfold TlsIo.continueConnect
  have phase := safe.phase
  unfold Phase at phase
  split
  · rename_i state
    rw [state] at phase
    obtain ⟨isOpen, host, config, rfl, prepared⟩ := phase
    unfold checkTcpConnected
    simp only
    split_ifs
    · have answered : Kept platform (some (host, config)) resolved sent
          { io with env.soErrors := io.env.soErrors.tail } := { safe.kept with }
      have released := answered.release { prepared with }
      exact (released _).1.fallBack (released _).2.1 (released _).2.2.1
    · refine Safe.continueTlsHandshake ⟨{ safe.kept with }, ?_⟩ rfl
      exact ⟨isOpen, .inl ⟨host, config, rfl, { prepared with }⟩⟩
  · rename_i state
    exact safe.continueTlsHandshake state
  · exact safe
  all_goals
    split_ifs
    · exact safe.quiet ⟨⟨_, rfl⟩, rfl, rfl⟩
    · exact safe

/-! ## Reading, writing, closing -/

theorem mapSslError_quiet (platform : Platform) (failure : SslFailure) (op : Bytes)
    (io : TlsIo) : Quiet io (mapSslError platform failure op io).2 := by
  cases failure <;> exact ⟨⟨_, rfl⟩, rfl, rfl⟩

theorem Safe.log (safe : Safe platform target resolved sent io) (call : TlsCall)
    (opens : ∀ fds, call.openAfter fds = fds) (attempt : call.attempt? = none)
    (handshake : ∀ ssl answer, call = .sslConnect ssl answer → False) :
    Safe platform target resolved (sent ++ [call].filter TlsCall.isApplication)
      (io.log call) :=
  ⟨safe.kept.log call opens attempt fun ssl answer same =>
      (handshake ssl answer same).elim,
    safe.phase.mono ⟨_, rfl⟩ (List.subset_append_left _ _) rfl⟩

theorem Safe.read (safe : Safe platform target resolved sent io) (len : Nat) :
    ∃ sent', Safe platform target resolved sent' (read platform len io).2 ∧
      (sent' = sent ∨ io.sock.state = .connected) := by
  unfold TlsIo.read
  split_ifs with state
  · exact ⟨sent, safe.quiet ⟨⟨_, rfl⟩, rfl, rfl⟩, .inl rfl⟩
  · have answered : Safe platform target resolved sent
        { io with env.reads := io.env.reads.tail } := safe.quiet ⟨⟨_, rfl⟩, rfl, rfl⟩
    have called := answered.log .sslRead (fun _ => rfl) rfl
      fun _ _ impossible => nomatch impossible
    refine ⟨sent ++ [.sslRead], ?_, .inr (not_not.mp state)⟩
    simp only
    split
    · exact called
    · exact called.quiet (mapSslError_quiet platform _ _ _)

theorem Safe.write (safe : Safe platform target resolved sent io) (data : Bytes) :
    ∃ sent', Safe platform target resolved sent' (write platform data io).2 ∧
      (sent' = sent ∨ io.sock.state = .connected) := by
  unfold TlsIo.write
  split_ifs with state
  · exact ⟨sent, safe.quiet ⟨⟨_, rfl⟩, rfl, rfl⟩, .inl rfl⟩
  · have answered : Safe platform target resolved sent
        { io with env.writes := io.env.writes.tail } := safe.quiet ⟨⟨_, rfl⟩, rfl, rfl⟩
    let taken := accepted data (takeAnswer (.error .wantWrite) io.env.writes).1
    have called := answered.log (.sslWrite data taken) (fun _ => rfl) rfl
      fun _ _ impossible => nomatch impossible
    refine ⟨sent ++ [.sslWrite data taken], ?_, .inr (not_not.mp state)⟩
    simp only
    split
    · exact called
    · exact called.quiet (mapSslError_quiet platform _ _ _)

theorem Safe.close (safe : Safe platform target resolved sent io) :
    Safe platform target resolved sent io.close := by
  unfold TlsIo.close
  have said : Kept platform target resolved sent
      (if io.sock.ssl.isSome ∧ io.sock.state = .connected then io.log .sslShutdown
        else io) := by
    split_ifs
    · have logged := safe.log .sslShutdown (fun _ => rfl) rfl
        fun _ _ impossible => nomatch impossible
      exact List.append_nil sent ▸ logged.kept
    · exact safe.kept
  generalize (if io.sock.ssl.isSome ∧ io.sock.state = .connected then
    io.log .sslShutdown else io) = io at said
  have released : Kept platform target resolved sent
      { io with sock.ssl := none, sock.sslCtx := none } := { said with }
  obtain ⟨kept, closed⟩ := released.closeFd
  refine ⟨{ kept with }, ?_⟩
  simp only [Phase]
  split_ifs with failed
  · exact closed
  · rw [not_not.mp failed]
    exact closed

end TlsIo

namespace TlsClient

/-- Every call keeps the socket safe, and only on a connected socket does it
move application bytes. -/
theorem step_safe {platform : Platform} {resolved : List AddrInfo}
    {sent : List TlsCall} {client : TlsClient}
    (safe : client.io.Safe platform client.target resolved sent) (op : TlsOp) :
    ∃ sent', (client.step platform op).io.Safe platform
        (client.step platform op).target resolved sent' ∧
      (sent' = sent ∨ client.io.sock.state = .connected) := by
  cases op with
  | startConnect host port config =>
      refine ⟨sent, ?_, .inl rfl⟩
      by_cases idle : client.io.sock.state = .idle
      · simp only [step, if_pos idle]
        exact safe.startConnect idle host port config
      · simp only [step, if_neg idle]
        unfold TlsIo.startConnect
        rw [if_pos idle]
        exact safe.kept.fail _
  | continueConnect => exact ⟨sent, safe.continueConnect, .inl rfl⟩
  | read len => exact safe.read len
  | write data => exact safe.write data
  | close => exact ⟨sent, safe.close, .inl rfl⟩

theorem run_safe (platform : Platform) (env : TlsEnv) (ops : List TlsOp) :
    let client := ops.foldl (step platform) (new env)
    ∃ sent, client.io.Safe platform client.target env.resolved sent := by
  have fresh : (new env).io.Safe platform (new env).target env.resolved [] :=
    ⟨⟨rfl, fun _ _ member => absurd member List.not_mem_nil, List.Sublist.slnil,
      List.nil_sublist _, rfl⟩, rfl, rfl, rfl⟩
  have kept {client : TlsClient}
      (safe : ∃ sent, client.io.Safe platform client.target env.resolved sent) :
      ∃ sent, (ops.foldl (step platform) client).io.Safe platform
        (ops.foldl (step platform) client).target env.resolved sent := by
    induction ops generalizing client with
    | nil => exact safe
    | cons op ops ih =>
        obtain ⟨sent, safe⟩ := safe
        obtain ⟨sent', next, _⟩ := step_safe safe op
        exact ih ⟨sent', next⟩
  exact kept ⟨[], fresh⟩

end TlsClient

/-- After any calls with any answers: only on a connected socket does a call move
application bytes; a connected socket has an `SSL` object, bound to its descriptor, on
which `SSL_connect` succeeded with `h2`; every `SSL` object was set up to check the peer
before any `SSL_connect` on it; the descriptor field names the only open descriptor, and
there is none before connecting or after failing or closing; and the attempts follow the
resolver's order. -/
theorem application_bytes_over_verified_h2 (platform : Platform) (env : TlsEnv)
    (ops : List TlsOp) :
    let client := ops.foldl (TlsClient.step platform) (TlsClient.new env)
    let sock := client.io.sock
    (∀ op, (client.step platform op).io.env.applicationCalls ≠
        client.io.env.applicationCalls → sock.state = .connected) ∧
    (sock.state = .connected → ∃ ssl, sock.ssl = some ssl ∧
      ssl.boundFd = sock.fd ∧
      .sslConnect ssl (.done (Bytes.ofString "h2")) ∈ client.io.env.calls) ∧
    (∀ ssl answer, .sslConnect ssl answer ∈ client.io.env.calls →
      ssl.ChecksPeer platform client.target) ∧
    client.io.env.openDescriptors = (if 0 ≤ sock.fd then [sock.fd] else []) ∧
    (sock.state = .idle ∨ sock.state = .failed ∨ sock.state = .closed →
      client.io.env.openDescriptors = []) ∧
    client.io.env.attempts.Sublist env.resolved := by
  intro client sock
  obtain ⟨sent, safe⟩ := TlsClient.run_safe platform env ops
  refine ⟨?_, ?_, safe.kept.handshakes, safe.kept.descriptors, ?_, ?_⟩
  · intro op moved
    obtain ⟨sent', next, same | connected⟩ := TlsClient.step_safe safe op
    · refine absurd ?_ moved
      rw [next.kept.applicationCalls, same]
      exact safe.kept.applicationCalls.symm
    · exact connected
  · intro connected
    have phase := safe.phase
    rw [TlsIo.Phase, connected] at phase
    obtain ⟨_, ssl, bound, done⟩ := phase
    exact ⟨ssl, bound.current, bound.boundFd, done⟩
  · intro down
    have phase := safe.phase
    have closed : sock.fd < 0 := by
      rcases down with state | state | state <;> rw [TlsIo.Phase, state] at phase
      · have fd : sock.fd = -1 := congrArg (·.fd) phase.1
        rw [fd]
        exact Int.negSucc_lt_zero 0
      · exact phase
      · exact phase
    rw [safe.kept.descriptors, if_neg (not_le.mpr closed)]
  · exact safe.kept.attempts.trans ((List.take_sublist _ _).trans safe.kept.addresses)

end Egrpc
