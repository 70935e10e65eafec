import Egrpc.TlsSocket

/-!
# Connecting a TLS socket

What a connect attempt leaves behind, for every outcome of the calls it makes:
while the socket is connecting it has a descriptor, a finished handshake keeps
that descriptor, and a connect that fails late moves to the descriptor opened
for the next usable address.
-/

namespace Egrpc

/-- A connect or a handshake is under way on an open descriptor. -/
def TlsSocket.Connecting (sock : TlsSocket) : Prop :=
  (sock.state = .tcpConnecting ∨ sock.state = .tlsHandshake) ∧ 0 ≤ sock.fd

/-- The descriptor of the first address that does not refuse at once, for the
given answers of `socket` and `connect`. -/
def fallbackDescriptor :
    List AddrInfo → List (Except Int Nat) → List Int → Option Nat
  | [], _, _ => none
  | _ :: untried, sockets, connects =>
      match sockets.headD (.ok 3) with
      | .error _ => fallbackDescriptor untried sockets.tail connects
      | .ok fd =>
          if connects.headD EINPROGRESS = 0 ∨
              connects.headD EINPROGRESS = EINPROGRESS then some fd
          else fallbackDescriptor untried sockets.tail connects.tail

namespace TlsIo

theorem closeFd_env (io : TlsIo) :
    io.closeFd.env.sockets = io.env.sockets ∧
      io.closeFd.env.connects = io.env.connects := by
  unfold closeFd
  split_ifs <;> exact ⟨rfl, rfl⟩

theorem openSocket_spec (address : AddrInfo) (io : TlsIo) :
    (io.openSocket address).1 = io.env.sockets.headD (.ok 3) ∧
      (io.openSocket address).2.env.sockets = io.env.sockets.tail ∧
      (io.openSocket address).2.env.connects = io.env.connects ∧
      ∀ fd, (io.openSocket address).1 = .ok fd →
        (io.openSocket address).2.sock.fd = fd := by
  unfold openSocket takeAnswer
  simp only
  cases io.env.sockets.headD (.ok 3) with
  | error errno => simp
  | ok fd => simp [log]

theorem connectSocket_spec (fd : Nat) (address : AddrInfo) (io : TlsIo) :
    (io.connectSocket fd address).1 = io.env.connects.headD EINPROGRESS ∧
      (io.connectSocket fd address).2.env.sockets = io.env.sockets ∧
      (io.connectSocket fd address).2.env.connects = io.env.connects.tail ∧
      (io.connectSocket fd address).2.sock = io.sock :=
  ⟨rfl, rfl, rfl, rfl⟩

/-- `TryNextAddress` stops at the first address that does not refuse, and is
then connecting on the descriptor opened for it. -/
theorem tryAddresses_spec (platform : Platform) (untried : List AddrInfo)
    (io : TlsIo) :
    (fallbackDescriptor untried io.env.sockets io.env.connects = none →
      (tryAddresses platform untried io).1 = false) ∧
    ∀ fd, fallbackDescriptor untried io.env.sockets io.env.connects = some fd →
      (tryAddresses platform untried io).1 = true ∧
        (tryAddresses platform untried io).2.sock.Connecting ∧
        (tryAddresses platform untried io).2.sock.fd = fd := by
  induction untried generalizing io with
  | nil => exact ⟨fun _ => rfl, fun fd impossible => by cases impossible⟩
  | cons address untried ih =>
      obtain ⟨answered, sockets, connects, descriptor⟩ := openSocket_spec address io
      unfold fallbackDescriptor tryAddresses
      simp only
      rw [← answered]
      cases opened : (io.openSocket address).1 with
      | error errno =>
          have later := ih ((io.openSocket address).2.setError
            (Bytes.ofString "socket() failed: " ++ platform.strerror errno))
          simp only [setError, sockets, connects] at later ⊢
          exact later
      | ok fd =>
          obtain ⟨connected, sockets', connects', sock⟩ :=
            connectSocket_spec fd address (io.openSocket address).2
          rw [connects] at connected connects'
          simp only
          rw [← connected]
          by_cases immediate :
              ((io.openSocket address).2.connectSocket fd address).1 = 0
          · simp [immediate, enterConnecting, TlsSocket.Connecting, sock,
              descriptor fd opened]
          · by_cases inProgress :
                ((io.openSocket address).2.connectSocket fd address).1 = EINPROGRESS
            · simp [inProgress, enterConnecting, TlsSocket.Connecting, sock,
                descriptor fd opened, EINPROGRESS]
            · simp only [immediate, inProgress, or_self, if_false]
              have later := ih (((io.openSocket address).2.connectSocket fd
                address).2.setError (Bytes.ofString "connect() failed: " ++
                  platform.strerror ((io.openSocket address).2.connectSocket fd
                    address).1)).closeFd
              rw [(closeFd_env _).1, (closeFd_env _).2] at later
              simp only [setError, sockets', connects', sockets] at later
              exact later

/-- The descriptor that the next usable address will get. -/
def fallback (io : TlsIo) : Option Nat :=
  fallbackDescriptor (io.sock.addresses.drop io.sock.nextAddress)
    io.env.sockets io.env.connects

theorem tryNextAddress_spec (platform : Platform) (io : TlsIo)
    (tried : (tryNextAddress platform io).1 = true) :
    (tryNextAddress platform io).2.sock.Connecting ∧
      ∃ fd : Nat, io.fallback = some fd ∧
        (tryNextAddress platform io).2.sock.fd = fd := by
  obtain ⟨refused, opened⟩ := tryAddresses_spec platform
    (io.sock.addresses.drop io.sock.nextAddress) io
  cases found : io.fallback with
  | none => exact absurd tried (by simp [tryNextAddress, refused found])
  | some fd => exact ⟨(opened fd found).2.1, fd, rfl, (opened fd found).2.2⟩

theorem startConnect_connecting (platform : Platform) (host : Bytes)
    (port : Nat) (config : TlsConfig) (io : TlsIo)
    (started : (startConnect platform host port config io).1 = true) :
    (startConnect platform host port config io).2.sock.Connecting := by
  revert started
  unfold startConnect
  simp only
  split_ifs
  · intro impossible
    cases impossible
  · intro impossible
    cases impossible
  · split
    · intro impossible
      cases impossible
    · split_ifs with unusable tried
      · intro impossible
        cases impossible
      · intro impossible
        cases impossible
      · intro _
        exact (tryNextAddress_spec platform _ (Bool.eq_true_of_not_eq_false tried)).1

/-! ## The handshake -/

theorem setVerification_frame (platform : Platform) (ssl : SslConnection)
    (io : TlsIo) (set : (setVerification platform ssl io).1 = true) :
    (setVerification platform ssl io).2.sock.state = io.sock.state ∧
      (setVerification platform ssl io).2.sock.fd = io.sock.fd := by
  unfold setVerification at set ⊢
  simp only at set ⊢
  split_ifs at set ⊢ <;> exact ⟨rfl, rfl⟩

theorem createSsl_frame (platform : Platform) (io : TlsIo)
    (created : (createSsl platform io).1 = true) :
    (createSsl platform io).2.sock.state = io.sock.state ∧
      (createSsl platform io).2.sock.fd = io.sock.fd := by
  revert created
  unfold createSsl
  simp only
  split
  · intro impossible
    cases impossible
  · intro impossible
    cases impossible
  · split_ifs
    · intro impossible
      cases impossible
    · exact setVerification_frame platform _ _

/-- How a round of the handshake ends. -/
structure HandshakeRound (io : TlsIo) (round : IoStatus × TlsIo) : Prop where
  waiting : round.1 = .wantRead ∨ round.1 = .wantWrite →
    round.2.sock.state = io.sock.state ∧ round.2.sock.fd = io.sock.fd
  done : round.1 = .ok →
    round.2.sock.state = .connected ∧ round.2.sock.fd = io.sock.fd

theorem callSslConnect_sock (io : TlsIo) :
    io.callSslConnect.2.sock = io.sock := by
  unfold callSslConnect
  simp only
  split <;> rfl

theorem sslConnect_round (platform : Platform) (io : TlsIo) :
    HandshakeRound io (sslConnect platform io) := by
  have sock := callSslConnect_sock io
  unfold sslConnect
  simp only
  cases io.callSslConnect.1 with
  | done proto =>
      simp only
      split_ifs
      · constructor <;> simp
      · constructor <;> simp [sock]
  | wantRead => constructor <;> simp [sock]
  | wantWrite => constructor <;> simp [sock]
  | failed noApplicationProtocol verify syscall =>
      simp only
      split_ifs
      · constructor <;> simp
      · constructor <;> simp

theorem continueTlsHandshake_round (platform : Platform) (io : TlsIo) :
    HandshakeRound io (continueTlsHandshake platform io) := by
  unfold continueTlsHandshake
  split
  · exact sslConnect_round platform io
  · simp only
    split_ifs with created
    · have frame := createSsl_frame platform io created
      have round := sslConnect_round platform (createSsl platform io).2
      constructor
      · intro waiting
        exact ⟨(round.waiting waiting).1.trans frame.1,
          (round.waiting waiting).2.trans frame.2⟩
      · intro done
        exact ⟨(round.done done).1, (round.done done).2.trans frame.2⟩
    · constructor <;> simp

/-! ## Progress -/

/-- The connect in flight has failed, as `SO_ERROR` will report. -/
def FailedLate (io : TlsIo) : Prop :=
  io.sock.state = .tcpConnecting ∧ io.env.soErrors.headD 0 ≠ 0

instance (io : TlsIo) : Decidable io.FailedLate :=
  inferInstanceAs (Decidable (_ ∧ _))

/-- How a call of `ContinueConnect` on a connecting socket ends. -/
structure ConnectRound (io : TlsIo) (round : IoStatus × TlsIo) : Prop where
  waiting : round.1 = .wantRead ∨ round.1 = .wantWrite →
    round.2.sock.Connecting ∧
      (round.2.sock.fd = io.sock.fd ∨
        io.FailedLate ∧ ∃ fd : Nat, io.fallback = some fd ∧ round.2.sock.fd = fd)
  done : round.1 = .ok → round.2.sock.state = .connected ∧ 0 ≤ round.2.sock.fd

theorem ConnectRound.of_handshake {io io' : TlsIo} {round : IoStatus × TlsIo}
    (handshake : HandshakeRound io' round) (connecting : io'.sock.Connecting)
    (descriptor : io'.sock.fd = io.sock.fd ∨
      io.FailedLate ∧ ∃ fd : Nat, io.fallback = some fd ∧ io'.sock.fd = fd) :
    ConnectRound io round where
  waiting := by
    intro waiting
    obtain ⟨state, fd⟩ := handshake.waiting waiting
    unfold TlsSocket.Connecting
    rw [state, fd]
    exact ⟨connecting, descriptor⟩
  done := by
    intro done
    obtain ⟨state, fd⟩ := handshake.done done
    exact ⟨state, fd ▸ connecting.2⟩

theorem closeFd_fallback (io : TlsIo) : io.closeFd.fallback = io.fallback := by
  unfold closeFd
  split_ifs <;> rfl

theorem fallBack_round (platform : Platform) {io io' : TlsIo}
    (late : io.FailedLate) (same : io'.fallback = io.fallback) :
    ConnectRound io (fallBack platform io') := by
  unfold fallBack
  simp only
  split_ifs with tried handshaking
  · obtain ⟨connecting, descriptor⟩ := tryNextAddress_spec platform io' tried
    rw [same] at descriptor
    exact .of_handshake (continueTlsHandshake_round platform _) connecting
      (.inr ⟨late, descriptor⟩)
  · obtain ⟨connecting, descriptor⟩ := tryNextAddress_spec platform io' tried
    rw [same] at descriptor
    exact ⟨fun _ => ⟨connecting, .inr ⟨late, descriptor⟩⟩, by simp⟩
  · constructor <;> simp

theorem checkTcpConnected_round (platform : Platform) (io : TlsIo)
    (connecting : io.sock.Connecting)
    (state : io.sock.state = .tcpConnecting) :
    ConnectRound io (checkTcpConnected platform io) := by
  unfold checkTcpConnected
  simp only
  by_cases late : (takeAnswer 0 io.env.soErrors).1 = 0
  · rw [if_neg (not_not.mpr late)]
    exact .of_handshake (continueTlsHandshake_round platform _)
      ⟨.inr rfl, connecting.2⟩ (.inl rfl)
  · rw [if_pos late]
    exact fallBack_round platform ⟨state, late⟩ (closeFd_fallback _)

theorem continueConnect_round (platform : Platform) (io : TlsIo)
    (connecting : io.sock.Connecting) :
    ConnectRound io (continueConnect platform io) := by
  unfold continueConnect
  rcases connecting.1 with state | state <;> simp only [state]
  · exact checkTcpConnected_round platform io connecting state
  · exact .of_handshake (continueTlsHandshake_round platform io) connecting
      (.inl rfl)

end TlsIo

end Egrpc
