import Egrpc.TlsSocketSafety

/-!
# Which calls of a socket move application bytes

Connecting and closing touch neither the answers that `SSL_read` and
`SSL_write` will give nor, in the journal, the calls of these two.  A read uses
one answer and is one call; a write leaves the answers of the reads alone.  What the
peer was sent is read off the journal: the bytes that the writes handed over, as far
as they were taken.
-/

namespace Egrpc

/-- The bytes that a call sends to the peer. -/
def TlsCall.sent : TlsCall → Bytes
  | .sslWrite data written => data.take written
  | .socket _ _ | .connect _ _ | .close _ | .sslConnect _ _ | .sslRead | .sslShutdown => []

def TlsEnv.sent (env : TlsEnv) : Bytes :=
  env.calls.flatMap TlsCall.sent

namespace TlsIo

/-- No application bytes moved: the journal grew by other calls, and no byte was
read. -/
structure NoBytes (io io' : TlsIo) : Prop where
  reads : io'.env.reads = io.env.reads
  calls : ∃ others, io'.env.calls = io.env.calls ++ others ∧
    ∀ call ∈ others, call.isApplication = false

namespace NoBytes

theorem of_eq {io io' : TlsIo} (reads : io'.env.reads = io.env.reads)
    (calls : io'.env.calls = io.env.calls) : NoBytes io io' :=
  ⟨reads, [], by rw [calls, List.append_nil], nofun⟩

theorem trans {first second third : TlsIo} (before : NoBytes first second)
    (after : NoBytes second third) : NoBytes first third := by
  obtain ⟨others, calls, none⟩ := before.calls
  obtain ⟨others', calls', none'⟩ := after.calls
  refine ⟨after.reads.trans before.reads, others ++ others', ?_, ?_⟩
  · rw [calls', calls, List.append_assoc]
  · intro call member
    rcases List.mem_append.mp member with old | new
    · exact none call old
    · exact none' call new

/-- Only the journal and the answers to come matter. -/
theorem after {first second third : TlsIo} (later : NoBytes second third)
    (reads : second.env.reads = first.env.reads)
    (calls : second.env.calls = first.env.calls) : NoBytes first third :=
  (of_eq reads calls).trans later

theorem sent {io io' : TlsIo} (noBytes : NoBytes io io') : io'.env.sent = io.env.sent := by
  obtain ⟨others, calls, none⟩ := noBytes.calls
  have nothing : others.flatMap TlsCall.sent = [] := by
    rw [List.flatMap_eq_nil_iff]
    intro call member
    have other := none call member
    cases call with
    | sslWrite => cases other
    | socket | connect | close | sslConnect | sslRead | sslShutdown => rfl
  rw [TlsEnv.sent, calls, List.flatMap_append, nothing, List.append_nil]
  rfl

end NoBytes

theorem log_noBytes (io : TlsIo) {call : TlsCall} (other : call.isApplication = false) :
    NoBytes io (io.log call) := by
  refine ⟨rfl, [call], rfl, ?_⟩
  intro call member
  rw [List.mem_singleton.mp member]
  exact other

theorem closeFd_noBytes (io : TlsIo) : NoBytes io io.closeFd := by
  unfold closeFd
  split_ifs
  · have logged : NoBytes io (io.log (.close io.sock.fd)) := io.log_noBytes rfl
    exact ⟨logged.reads, logged.calls⟩
  · exact .of_eq rfl rfl

theorem fail_noBytes (io : TlsIo) (message : Bytes) : NoBytes io (io.fail message) :=
  (closeFd_noBytes _).after rfl rfl

theorem failSsl_noBytes (io : TlsIo) (label : Bytes) : NoBytes io (io.failSsl label) :=
  (fail_noBytes _ _).after rfl rfl

/-! ## Connecting -/

theorem loadTrust_noBytes (config : TlsConfig) (io : TlsIo) :
    NoBytes io (loadTrust config io).2 := by
  unfold loadTrust
  simp only
  split_ifs <;> exact .of_eq rfl rfl

theorem loadIdentity_noBytes (config : TlsConfig) (io : TlsIo) :
    NoBytes io (loadIdentity config io).2 := by
  unfold loadIdentity
  simp only
  split_ifs <;> exact .of_eq rfl rfl

theorem createSslContext_noBytes (config : TlsConfig) (io : TlsIo) :
    NoBytes io (createSslContext config io).2 := by
  have identity {trust : Bool × TlsIo} (loaded : NoBytes io trust.2) :
      NoBytes io (if trust.1 = false then (false, trust.2)
        else loadIdentity config trust.2).2 := by
    split_ifs
    · exact loaded
    · exact loaded.trans (loadIdentity_noBytes config trust.2)
  unfold createSslContext
  simp only
  split
  · exact .of_eq rfl rfl
  split
  · exact .of_eq rfl rfl
  split
  · exact .of_eq rfl rfl
  apply identity
  split
  · exact (loadTrust_noBytes config _).after rfl rfl
  · exact .of_eq rfl rfl

theorem openSocket_noBytes (address : AddrInfo) (io : TlsIo) :
    NoBytes io (io.openSocket address).2 := by
  unfold openSocket
  simp only
  split
  · exact .of_eq rfl rfl
  · exact (log_noBytes _ rfl).after rfl rfl

/-- However many addresses refuse, no byte is moved on the way. -/
theorem tryAddresses_noBytes (platform : Platform) (untried : List AddrInfo)
    (io : TlsIo) : NoBytes io (tryAddresses platform untried io).2 := by
  induction untried generalizing io with
  | nil =>
      unfold tryAddresses
      simp only
      split_ifs <;> exact .of_eq rfl rfl
  | cons address untried ih =>
      have opened := openSocket_noBytes address io
      unfold tryAddresses
      simp only
      split
      · exact opened.trans ((ih _).after rfl rfl)
      · rename_i fd _
        have connected : NoBytes io ((io.openSocket address).2.connectSocket fd address).2 :=
          opened.trans ((log_noBytes _ rfl).after rfl rfl)
        split_ifs
        · exact ⟨connected.reads, connected.calls⟩
        · exact ⟨connected.reads, connected.calls⟩
        · exact connected.trans (((closeFd_noBytes _).trans (ih _)).after rfl rfl)

theorem startConnect_noBytes (platform : Platform) (host : Bytes) (port : Nat)
    (config : TlsConfig) (io : TlsIo) :
    NoBytes io (startConnect platform host port config io).2 := by
  have created : NoBytes io (createSslContext config { io with sock.host := host }).2 :=
    (createSslContext_noBytes config _).after rfl rfl
  unfold startConnect
  simp only
  split_ifs
  · exact fail_noBytes io _
  · exact created.trans (fail_noBytes _ _)
  · split
    · exact created.trans ((fail_noBytes _ _).after rfl rfl)
    · split_ifs
      · exact created.trans ((fail_noBytes _ _).after rfl rfl)
      · exact created.trans
          (((tryAddresses_noBytes platform _ _).trans (fail_noBytes _ _)).after rfl rfl)
      · exact created.trans ((tryAddresses_noBytes platform _ _).after rfl rfl)

theorem setVerification_noBytes (platform : Platform) (ssl : SslConnection) (io : TlsIo) :
    NoBytes io (setVerification platform ssl io).2 := by
  unfold setVerification
  simp only
  split_ifs
  all_goals first
    | exact .of_eq rfl rfl
    | exact (failSsl_noBytes _ _).after rfl rfl

theorem createSsl_noBytes (platform : Platform) (io : TlsIo) :
    NoBytes io (createSsl platform io).2 := by
  unfold createSsl
  simp only
  split
  · exact (failSsl_noBytes _ _).after rfl rfl
  · exact (failSsl_noBytes _ _).after rfl rfl
  · split_ifs
    · exact (failSsl_noBytes _ _).after rfl rfl
    · exact (setVerification_noBytes platform _ _).after rfl rfl

theorem sslConnect_noBytes (platform : Platform) (io : TlsIo) :
    NoBytes io (sslConnect platform io).2 := by
  have called : NoBytes io io.callSslConnect.2 := by
    unfold callSslConnect
    simp only
    split
    · exact (log_noBytes _ rfl).after rfl rfl
    · exact .of_eq rfl rfl
  unfold sslConnect
  simp only
  split
  · split_ifs
    · exact called.trans (fail_noBytes _ _)
    · exact ⟨called.reads, called.calls⟩
  · exact ⟨called.reads, called.calls⟩
  · exact ⟨called.reads, called.calls⟩
  · split_ifs
    · exact called.trans (fail_noBytes _ _)
    · exact called.trans ((fail_noBytes _ _).after rfl rfl)

theorem continueTlsHandshake_noBytes (platform : Platform) (io : TlsIo) :
    NoBytes io (continueTlsHandshake platform io).2 := by
  unfold continueTlsHandshake
  split
  · exact sslConnect_noBytes platform io
  · simp only
    split_ifs
    · exact (createSsl_noBytes platform io).trans (sslConnect_noBytes platform _)
    · exact createSsl_noBytes platform io

theorem fallBack_noBytes (platform : Platform) (io : TlsIo) :
    NoBytes io (fallBack platform io).2 := by
  have tried : NoBytes io (tryNextAddress platform io).2 := tryAddresses_noBytes platform _ io
  unfold fallBack
  simp only
  split_ifs
  · exact tried.trans (continueTlsHandshake_noBytes platform _)
  · exact tried
  · exact tried.trans (fail_noBytes _ _)

theorem continueConnect_noBytes (platform : Platform) (io : TlsIo) :
    NoBytes io (continueConnect platform io).2 := by
  unfold continueConnect
  split
  · unfold checkTcpConnected
    simp only
    split_ifs
    · exact ((closeFd_noBytes _).trans (fallBack_noBytes platform _)).after rfl rfl
    · exact (continueTlsHandshake_noBytes platform _).after rfl rfl
  · exact continueTlsHandshake_noBytes platform io
  · exact .of_eq rfl rfl
  all_goals
    simp only
    split_ifs <;> exact .of_eq rfl rfl

theorem close_noBytes (io : TlsIo) : NoBytes io io.close := by
  have said : NoBytes io (if io.sock.ssl.isSome ∧ io.sock.state = .connected then
      io.log .sslShutdown else io) := by
    split_ifs
    · exact log_noBytes io rfl
    · exact .of_eq rfl rfl
  unfold close
  simp only
  generalize (if io.sock.ssl.isSome ∧ io.sock.state = .connected then
    io.log .sslShutdown else io) = io' at said
  have closed : NoBytes io ({ io' with sock.ssl := none, sock.sslCtx := none } :
      TlsIo).closeFd := said.trans ((closeFd_noBytes _).after rfl rfl)
  exact ⟨closed.reads, closed.calls⟩

theorem close_fd (io : TlsIo) : io.close.sock.fd < 0 := by
  have closed (io : TlsIo) : io.closeFd.sock.fd < 0 := by
    unfold closeFd
    split_ifs with isOpen
    · exact Int.negSucc_lt_zero 0
    · exact not_le.mp isOpen
  exact closed _

/-! ## Reading and writing -/

/-- The bytes of an answer to a read of at most `len` bytes. -/
def delivered (len : Nat) : Except SslFailure Bytes → Option Bytes
  | .ok bytes => some (bytes.take len)
  | .error _ => none

theorem mapSslError_env (platform : Platform) (failure : SslFailure) (op : Bytes)
    (io : TlsIo) : (mapSslError platform failure op io).2.env.reads = io.env.reads ∧
      (mapSslError platform failure op io).2.env.calls = io.env.calls := by
  cases failure <;> exact ⟨rfl, rfl⟩

theorem read_used (platform : Platform) (len : Nat) (io : TlsIo)
    (connected : io.sock.state = .connected) :
    (io.read platform len).2.env.calls = io.env.calls ++ [.sslRead] ∧
    ∃ used, io.env.reads = used ++ (io.read platform len).2.env.reads ∧
      ((io.read platform len).1.1 = .ok →
        used.filterMap (delivered len) = [(io.read platform len).1.2]) ∧
      ((io.read platform len).1.1 ≠ .ok → used.filterMap (delivered len) = []) := by
  unfold read
  rw [if_neg (not_not.mpr connected)]
  cases answers : io.env.reads with
  | nil => exact ⟨rfl, [], rfl, nofun, fun _ => rfl⟩
  | cons answer rest =>
      cases answer with
      | ok bytes => exact ⟨rfl, [.ok bytes], rfl, fun _ => rfl, fun notOk => absurd rfl notOk⟩
      | error failure =>
          obtain ⟨reads, calls⟩ := mapSslError_env platform failure (Bytes.ofString "SSL_read")
            (({ io with env.reads := rest } : TlsIo).log .sslRead)
          refine ⟨calls, [.error failure], ?_, ?_, fun _ => rfl⟩
          · exact congrArg (.error failure :: ·) reads.symm
          · intro ok
            exact absurd ok (mapSslError_frame _ _ _ _).1

theorem read_sent (platform : Platform) (len : Nat) (io : TlsIo) :
    (io.read platform len).2.env.sent = io.env.sent := by
  by_cases connected : io.sock.state = .connected
  · rw [TlsEnv.sent, (read_used platform len io connected).1, List.flatMap_append]
    exact List.append_nil _
  · rw [read, if_pos connected]
    rfl

theorem write_used (platform : Platform) (data : Bytes) (io : TlsIo)
    (connected : io.sock.state = .connected) :
    (io.write platform data).2.env.calls =
        io.env.calls ++ [.sslWrite data (io.write platform data).1.2] ∧
      (io.write platform data).2.env.reads = io.env.reads ∧
      ((io.write platform data).1.1 ≠ .ok → (io.write platform data).1.2 = 0) := by
  unfold write
  rw [if_neg (not_not.mpr connected)]
  cases answers : io.env.writes with
  | nil => exact ⟨rfl, rfl, fun _ => rfl⟩
  | cons answer rest =>
      cases answer with
      | ok written => exact ⟨rfl, rfl, fun failed => absurd rfl failed⟩
      | error failure =>
          obtain ⟨reads, calls⟩ := mapSslError_env platform failure
            (Bytes.ofString "SSL_write")
            (({ io with env.writes := rest } : TlsIo).log (.sslWrite data 0))
          exact ⟨calls, reads, fun _ => rfl⟩

/-- The bytes that a write takes are sent, and a write that fails sends nothing. -/
theorem write_sent (platform : Platform) (data : Bytes) (io : TlsIo) :
    (io.write platform data).2.env.sent =
        io.env.sent ++ data.take (io.write platform data).1.2 ∧
      ((io.write platform data).1.1 ≠ .ok →
        (io.write platform data).2.env.sent = io.env.sent) := by
  by_cases connected : io.sock.state = .connected
  · obtain ⟨calls, -, failed⟩ := write_used platform data io connected
    have sent : (io.write platform data).2.env.sent =
        io.env.sent ++ data.take (io.write platform data).1.2 := by
      rw [TlsEnv.sent, calls, List.flatMap_append, List.flatMap_singleton]
      rfl
    refine ⟨sent, fun notOk => ?_⟩
    rw [sent, failed notOk, List.take_zero, List.append_nil]
  · rw [write, if_pos connected]
    exact ⟨(List.append_nil _).symm, fun _ => rfl⟩

end TlsIo

end Egrpc
