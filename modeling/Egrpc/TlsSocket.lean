import Egrpc.Support.Bytes
import Egrpc.TimerHeap

/-!
# The TLS client socket

`TlsSocket` drives a non-blocking connect with address fallback, then the TLS
handshake, then reads and writes.  The operating system and OpenSSL are outside
the program: `TlsEnv` holds the answers they will give, one queue for each kind
of call.  A queue that has run dry answers with the call's ordinary case, so
every finite sequence of answers is some queue.
-/

namespace Egrpc

/-- What the code takes from libraries as pure functions. -/
structure Platform where
  timerAlgorithms : TimerHeap.Algorithms
  strerror : Int → Bytes
  gaiStrerror : Int → Bytes
  nghttp2Strerror : Int → Bytes
  x509VerifyCertErrorString : Int → Bytes
  /-- `inet_pton` accepts the host as an IPv4 or IPv6 address. -/
  isIpLiteral : Bytes → Bool

/-- The next answer of a queue, and the queue after it. -/
def takeAnswer {Answer : Type} (ordinary : Answer) (answers : List Answer) :
    Answer × List Answer :=
  (answers.headD ordinary, answers.tail)

/-! ## The outside -/

structure AddrInfo where
  family : Int
  addr : Bytes
  addrlen : Nat
  deriving DecidableEq

def sockaddrStorageSize : Nat := 128

/-- Why a TLS read or write did not succeed, as `SSL_get_error` classifies it. -/
inductive SslFailure
  | wantRead
  | wantWrite
  | zeroReturn
  | syscall (errno : Int)
  | ssl
  deriving DecidableEq

/-- How one call of `SSL_connect` ends.  A failure carries what the code looks
at: the no-application-protocol alert, the certificate verdict, and the errno
when the failure is an I/O error. -/
inductive Handshake
  | done (alpn : Bytes)
  | wantRead
  | wantWrite
  | failed (noApplicationProtocol : Bool) (verify : Int) (syscall : Option Int)
  deriving DecidableEq

structure SslContext where
  minTls12 : Bool := false
  alpnProtos : Bytes := []
  verifyPeer : Bool := false
  deriving DecidableEq

/-- An `SSL` object: its context, the descriptor it is bound to, and what the
peer's certificate is checked against. -/
structure SslConnection where
  context : SslContext
  boundFd : Int := -1
  serverName : Option Bytes := none
  verifyHost : Option Bytes := none
  verifyIp : Option Bytes := none
  deriving DecidableEq

/-- The calls that leave the process or move application bytes.  A write is noted
with the bytes handed over and with how many of them were taken. -/
inductive TlsCall
  | socket (family : Int) (fd : Nat)
  | connect (fd : Nat) (address : AddrInfo)
  | close (fd : Int)
  | sslConnect (ssl : SslConnection) (answer : Handshake)
  | sslRead
  | sslWrite (data : Bytes) (written : Nat)
  | sslShutdown
  deriving DecidableEq

/-- The answers of the operating system and of OpenSSL, and the calls made so
far. -/
structure TlsEnv where
  /-- Return values of the OpenSSL set-up calls. -/
  sslReturns : List Int := []
  /-- The error queue each time it is printed. -/
  sslErrors : List (List Bytes) := []
  /-- For a CA bundle, whether each of its certificates was added. -/
  pemBundles : List (List Bool) := []
  resolutions : List (Except Int (List AddrInfo)) := []
  sockets : List (Except Int Nat) := []
  /-- The errno of each `connect`, zero for success. -/
  connects : List Int := []
  /-- The value of `SO_ERROR`, or the errno of a failed `getsockopt`. -/
  soErrors : List Int := []
  handshakes : List Handshake := []
  reads : List (Except SslFailure Bytes) := []
  writes : List (Except SslFailure Nat) := []
  calls : List TlsCall := []

def EINPROGRESS : Int := 115

/-! ## The socket -/

structure TlsConfig where
  caBundlePath : Bytes := []
  caBundlePem : Bytes := []
  clientCertPath : Bytes := []
  clientKeyPath : Bytes := []
  insecureSkipVerifyForTestingOnly : Bool := false
  deriving DecidableEq

inductive TlsSocket.State
  | idle
  | tcpConnecting
  | tlsHandshake
  | connected
  | failed
  | closed
  deriving DecidableEq, Repr

/-- What a non-blocking operation reports. -/
inductive IoStatus
  | ok
  | wantRead
  | wantWrite
  | eof
  | error
  deriving DecidableEq, Repr

/-- Poll masks. -/
def POLLIN : Nat := 0x1

@[inherit_doc POLLIN]
def POLLOUT : Nat := 0x4

@[inherit_doc POLLIN]
def POLLERR : Nat := 0x8

@[inherit_doc POLLIN]
def POLLHUP : Nat := 0x10

structure TlsSocket where
  state : TlsSocket.State := .idle
  fd : Int := -1
  sslCtx : Option SslContext := none
  ssl : Option SslConnection := none
  host : Bytes := []
  verifyPeer : Bool := true
  error : Bytes := []
  alpn : Bytes := []
  desiredEvents : Nat := 0
  addresses : List AddrInfo := []
  nextAddress : Nat := 0

/-- A socket together with its surroundings. -/
structure TlsIo where
  sock : TlsSocket
  env : TlsEnv

namespace TlsIo

def log (io : TlsIo) (call : TlsCall) : TlsIo :=
  { io with env.calls := io.env.calls ++ [call] }

/-- The return value of an OpenSSL set-up call. -/
def sslReturn (io : TlsIo) (success : Int) : Int × TlsIo :=
  let answer := takeAnswer success io.env.sslReturns
  (answer.1, { io with env.sslReturns := answer.2 })

/-- Print the OpenSSL error queue. -/
def sslErrorQueueString (io : TlsIo) : Bytes × TlsIo :=
  let answer := takeAnswer [] io.env.sslErrors
  (if answer.1 = [] then Bytes.ofString "unknown OpenSSL error"
    else (answer.1.intersperse (Bytes.ofString "; ")).flatten,
    { io with env.sslErrors := answer.2 })

def setError (io : TlsIo) (text : Bytes) : TlsIo :=
  { io with sock.error := text }

def setSslError (io : TlsIo) (label : Bytes) : TlsIo :=
  let queue := io.sslErrorQueueString
  queue.2.setError (label ++ queue.1)

def closeFd (io : TlsIo) : TlsIo :=
  if 0 ≤ io.sock.fd then
    { (io.log (.close io.sock.fd)) with sock.fd := -1 }
  else io

/-- Enter the terminal failure state and release everything. -/
def fail (io : TlsIo) (message : Bytes) : TlsIo :=
  ({ io with sock := { io.sock with
      error := message, state := .failed, desiredEvents := 0,
      ssl := none, sslCtx := none } } : TlsIo).closeFd

def failSsl (io : TlsIo) (label : Bytes) : TlsIo :=
  let queue := io.sslErrorQueueString
  queue.2.fail (label ++ queue.1)

/-! ## Configuration -/

/-- Load the trusted roots into a verifying context. -/
def loadTrust (config : TlsConfig) (io : TlsIo) : Bool × TlsIo :=
  if config.caBundlePem ≠ [] then
    let bio := io.sslReturn 1
    if bio.1 = 0 then
      (false, bio.2.setError (Bytes.ofString "failed to allocate BIO for CA bundle"))
    else
      let bundle := takeAnswer [true] bio.2.env.pemBundles
      let io := { bio.2 with env.pemBundles := bundle.2 }
      if bundle.1.count true = 0 then
        (false, io.setError (Bytes.ofString "CA bundle PEM contained no certificates"))
      else (true, io)
  else if config.caBundlePath ≠ [] then
    let loaded := io.sslReturn 1
    if loaded.1 ≠ 1 then
      (false, loaded.2.setSslError (Bytes.ofString "failed to load CA bundle '" ++
        config.caBundlePath ++ Bytes.ofString "': "))
    else (true, loaded.2)
  else
    let loaded := io.sslReturn 1
    if loaded.1 ≠ 1 then
      (false, loaded.2.setSslError
        (Bytes.ofString "failed to load system default CA paths: "))
    else (true, loaded.2)

def loadIdentity (config : TlsConfig) (io : TlsIo) : Bool × TlsIo :=
  if config.clientCertPath = [] ∧ config.clientKeyPath = [] then (true, io)
  else if config.clientCertPath = [] ∨ config.clientKeyPath = [] then
    (false, io.setError (Bytes.ofString
      "mTLS config requires both client_cert_path and client_key_path"))
  else
    let cert := io.sslReturn 1
    if cert.1 ≠ 1 then
      (false, cert.2.setSslError (Bytes.ofString
        "failed to load client certificate '" ++ config.clientCertPath ++
        Bytes.ofString "': "))
    else
      let key := cert.2.sslReturn 1
      if key.1 ≠ 1 then
        (false, key.2.setSslError (Bytes.ofString "failed to load client key '" ++
          config.clientKeyPath ++ Bytes.ofString "': "))
      else
        let check := key.2.sslReturn 1
        if check.1 ≠ 1 then
          (false, check.2.setSslError
            (Bytes.ofString "client certificate and key do not match: "))
        else (true, check.2)

def createSslContext (config : TlsConfig) (io : TlsIo) : Bool × TlsIo :=
  let ctx := io.sslReturn 1
  if ctx.1 = 0 then
    (false, ctx.2.setSslError (Bytes.ofString "SSL_CTX_new failed: "))
  else
    let io : TlsIo := { ctx.2 with sock.sslCtx := some {} }
    let version := io.sslReturn 1
    if version.1 ≠ 1 then
      (false, version.2.setSslError (Bytes.ofString "failed to set TLS 1.2 minimum: "))
    else
      let io : TlsIo := { version.2 with sock.sslCtx := some { minTls12 := true } }
      -- Zero is the success value of this one.
      let alpn := io.sslReturn 0
      if alpn.1 ≠ 0 then
        (false, alpn.2.setSslError (Bytes.ofString "failed to set ALPN protocols: "))
      else
        let verify := !config.insecureSkipVerifyForTestingOnly
        let io : TlsIo := { alpn.2 with
          sock.verifyPeer := verify
          sock.sslCtx := some
            { minTls12 := true
              alpnProtos := 2 :: Bytes.ofString "h2"
              verifyPeer := verify } }
        let trust := if verify then loadTrust config io else (true, io)
        if trust.1 = false then (false, trust.2)
        else loadIdentity config trust.2

/-! ## Connecting -/

/-- Call `socket` for an address; the result is the new descriptor field. -/
def openSocket (address : AddrInfo) (io : TlsIo) : Except Int Nat × TlsIo :=
  let answer := takeAnswer (.ok 3) io.env.sockets
  let io : TlsIo := { io with
    sock.nextAddress := io.sock.nextAddress + 1
    env.sockets := answer.2 }
  match answer.1 with
  | .error _ => (answer.1, { io with sock.fd := -1 })
  | .ok fd =>
      (answer.1, ({ io with sock.fd := fd } : TlsIo).log (.socket address.family fd))

/-- Call `connect` on a descriptor; the errno, zero for success. -/
def connectSocket (fd : Nat) (address : AddrInfo) (io : TlsIo) : Int × TlsIo :=
  let answer := takeAnswer EINPROGRESS io.env.connects
  (answer.1, ({ io with env.connects := answer.2 } : TlsIo).log (.connect fd address))

/-- An address did not refuse; the failure text of earlier ones is dropped. -/
def enterConnecting (state : TlsSocket.State) (io : TlsIo) : TlsIo :=
  { io with
    sock.state := state
    sock.desiredEvents := POLLOUT
    sock.error := [] }

/-- The loop of `TryNextAddress` over the addresses not tried yet. -/
def tryAddresses (platform : Platform) : List AddrInfo → TlsIo → Bool × TlsIo
  | [], io =>
      (false, if io.sock.error = [] then
        io.setError (Bytes.ofString "no addresses to try") else io)
  | address :: untried, io =>
      let opened := io.openSocket address
      match opened.1 with
      | .error errno =>
          tryAddresses platform untried (opened.2.setError
            (Bytes.ofString "socket() failed: " ++ platform.strerror errno))
      | .ok fd =>
          let answer := opened.2.connectSocket fd address
          if answer.1 = 0 then (true, answer.2.enterConnecting .tlsHandshake)
          else if answer.1 = EINPROGRESS then
            (true, answer.2.enterConnecting .tcpConnecting)
          else
            tryAddresses platform untried (answer.2.setError
              (Bytes.ofString "connect() failed: " ++
                platform.strerror answer.1)).closeFd

/-- Open a socket to the next address that does not refuse at once. -/
def tryNextAddress (platform : Platform) (io : TlsIo) : Bool × TlsIo :=
  tryAddresses platform (io.sock.addresses.drop io.sock.nextAddress) io

/-- Resolve the host and start a non-blocking connect. -/
def startConnect (platform : Platform) (host : Bytes) (port : Nat)
    (config : TlsConfig) (io : TlsIo) : Bool × TlsIo :=
  if io.sock.state ≠ .idle then
    (false, io.fail
      (Bytes.ofString "StartConnect called twice on the same TlsSocket"))
  else
    let created := createSslContext config { io with sock.host := host }
    if created.1 = false then
      (false, created.2.fail created.2.sock.error)
    else
      let answer := takeAnswer (.ok [⟨2, [], 16⟩]) created.2.env.resolutions
      let io : TlsIo := { created.2 with env.resolutions := answer.2 }
      match answer.1 with
      | .error code =>
          (false, io.fail (Bytes.ofString "failed to resolve '" ++ host ++
            Bytes.ofString "': " ++ platform.gaiStrerror code))
      | .ok results =>
          let usable := results.filter fun info =>
            decide (info.addrlen ≤ sockaddrStorageSize)
          let io : TlsIo := { io with
            sock.addresses := io.sock.addresses ++ usable }
          if io.sock.addresses = [] then
            (false, io.fail (Bytes.ofString "resolution of '" ++ host ++
              Bytes.ofString "' returned no usable addresses"))
          else
            let tried := tryNextAddress platform io
            if tried.1 = false then
              (false, tried.2.fail (Bytes.ofString "could not connect to '" ++ host ++
                Bytes.ofString ":" ++ Bytes.decimal port ++ Bytes.ofString "': " ++
                tried.2.sock.error))
            else (true, tried.2)

/-- Install what the peer's certificate is checked against. -/
def setVerification (platform : Platform) (ssl : SslConnection) (io : TlsIo) :
    Bool × TlsIo :=
  if platform.isIpLiteral io.sock.host then
    -- No SNI for IP literals.
    if io.sock.verifyPeer then
      let ip := io.sslReturn 1
      if ip.1 ≠ 1 then
        (false, ip.2.failSsl
          (Bytes.ofString "failed to set IP for certificate verification: "))
      else
        (true, { ip.2 with sock.ssl := some { ssl with verifyIp := some io.sock.host } })
    else (true, io)
  else
    let sni := io.sslReturn 1
    if sni.1 ≠ 1 then
      (false, sni.2.failSsl (Bytes.ofString "failed to set SNI host name: "))
    else
      let ssl := { ssl with serverName := some io.sock.host }
      let io : TlsIo := { sni.2 with sock.ssl := some ssl }
      if io.sock.verifyPeer then
        let name := io.sslReturn 1
        if name.1 ≠ 1 then
          (false, name.2.failSsl
            (Bytes.ofString "failed to set verification host name: "))
        else
          (true, { name.2 with
            sock.ssl := some { ssl with verifyHost := some io.sock.host } })
      else (true, io)

def createSsl (platform : Platform) (io : TlsIo) : Bool × TlsIo :=
  let new := io.sslReturn 1
  match new.1, io.sock.sslCtx with
  | 0, _ | _, none => (false, new.2.failSsl (Bytes.ofString "SSL_new failed: "))
  | _, some context =>
      let ssl : SslConnection := { context := context }
      let io : TlsIo := { new.2 with sock.ssl := some ssl }
      let bound := io.sslReturn 1
      if bound.1 ≠ 1 then
        (false, bound.2.failSsl (Bytes.ofString "SSL_set_fd failed: "))
      else
        let ssl := { ssl with boundFd := io.sock.fd }
        setVerification platform ssl { bound.2 with sock.ssl := some ssl }

/-- The detail of a terminal handshake failure. -/
def handshakeFailure (platform : Platform) (io : TlsIo) (verify : Int)
    (syscall : Option Int) : Bytes × TlsIo :=
  let queue := io.sslErrorQueueString
  let detail :=
    if verify ≠ 0 then
      Bytes.ofString "certificate verification failed: " ++
        platform.x509VerifyCertErrorString verify ++ Bytes.ofString " (" ++
        queue.1 ++ Bytes.ofString ")"
    else
      match syscall with
      | some errno =>
          if errno ≠ 0 then
            Bytes.ofString "TLS handshake I/O error: " ++ platform.strerror errno
          else Bytes.ofString "connection closed during TLS handshake"
      | none => queue.1
  (detail, queue.2)

def callSslConnect (io : TlsIo) : Handshake × TlsIo :=
  let answer := takeAnswer .wantRead io.env.handshakes
  let io : TlsIo := { io with env.handshakes := answer.2 }
  (answer.1,
    match io.sock.ssl with
    | some ssl => io.log (.sslConnect ssl answer.1)
    | none => io)

/-- One call of `SSL_connect` and what follows from its outcome. -/
def sslConnect (platform : Platform) (io : TlsIo) : IoStatus × TlsIo :=
  let answer := io.callSslConnect
  let io := answer.2
  match answer.1 with
  | .done proto =>
      if proto ≠ Bytes.ofString "h2" then
        (.error, io.fail (Bytes.ofString "server did not negotiate HTTP/2 via ALPN"))
      else
        (.ok, { io with
          sock.alpn := proto
          sock.state := .connected
          sock.desiredEvents := POLLIN })
  | .wantRead => (.wantRead, { io with sock.desiredEvents := POLLIN })
  | .wantWrite => (.wantWrite, { io with sock.desiredEvents := POLLOUT })
  | .failed noApplicationProtocol verify syscall =>
      if noApplicationProtocol then
        (.error, io.fail (Bytes.ofString "server did not negotiate HTTP/2 via ALPN"))
      else
        let failure := handshakeFailure platform io verify syscall
        (.error, failure.2.fail (Bytes.ofString "TLS handshake with '" ++
          io.sock.host ++ Bytes.ofString "' failed: " ++ failure.1))

/-- Drive the handshake, creating the `SSL` object on the first call. -/
def continueTlsHandshake (platform : Platform) (io : TlsIo) : IoStatus × TlsIo :=
  match io.sock.ssl with
  | some _ => sslConnect platform io
  | none =>
      let created := createSsl platform io
      if created.1 then sslConnect platform created.2 else (.error, created.2)

/-- Move on to the next address after a connect that failed late. -/
def fallBack (platform : Platform) (io : TlsIo) : IoStatus × TlsIo :=
  let tried := tryNextAddress platform io
  if tried.1 then
    if tried.2.sock.state = .tlsHandshake then continueTlsHandshake platform tried.2
    else (.wantWrite, tried.2)
  else
    (.error, tried.2.fail (Bytes.ofString "could not connect to '" ++
      tried.2.sock.host ++ Bytes.ofString "': " ++ tried.2.sock.error))

/-- Check the outcome of a non-blocking connect. -/
def checkTcpConnected (platform : Platform) (io : TlsIo) : IoStatus × TlsIo :=
  let answer := takeAnswer 0 io.env.soErrors
  let io : TlsIo := { io with env.soErrors := answer.2 }
  if answer.1 ≠ 0 then
    fallBack platform (io.setError (Bytes.ofString "connect() failed: " ++
      platform.strerror answer.1)).closeFd
  else
    continueTlsHandshake platform { io with sock.state := .tlsHandshake }

/-- Drive TCP connect and TLS handshake after `poll` reported readiness. -/
def continueConnect (platform : Platform) (io : TlsIo) : IoStatus × TlsIo :=
  match io.sock.state with
  | .tcpConnecting => checkTcpConnected platform io
  | .tlsHandshake => continueTlsHandshake platform io
  | .connected => (.ok, io)
  | .idle | .failed | .closed =>
      (.error, if io.sock.error = [] then
        io.setError (Bytes.ofString "ContinueConnect on unconnected socket") else io)

/-! ## Reading, writing, closing -/

/-- Classify a failed read or write and fill in the error text. -/
def mapSslError (platform : Platform) (failure : SslFailure) (op : Bytes)
    (io : TlsIo) : IoStatus × TlsIo :=
  match failure with
  | .wantRead => (.wantRead, io)
  | .wantWrite => (.wantWrite, io)
  | .zeroReturn => (.eof, io)
  | .syscall errno =>
      (.error, io.setError (if errno ≠ 0 then
        op ++ Bytes.ofString " failed: " ++ platform.strerror errno
        else op ++ Bytes.ofString " failed: connection closed abruptly by peer"))
  | .ssl => (.error, io.setSslError (op ++ Bytes.ofString " failed: "))

def read (platform : Platform) (len : Nat) (io : TlsIo) :
    (IoStatus × Bytes) × TlsIo :=
  if io.sock.state ≠ .connected then
    ((.error, []), io.setError (Bytes.ofString "Read on socket that is not connected"))
  else
    let answer := takeAnswer (.error .wantRead) io.env.reads
    let io := ({ io with env.reads := answer.2 } : TlsIo).log .sslRead
    match answer.1 with
    | .ok bytes => ((.ok, bytes.take len), io)
    | .error failure =>
        let mapped := mapSslError platform failure (Bytes.ofString "SSL_read") io
        ((mapped.1, []), mapped.2)

/-- How many bytes of `data` an answer of `SSL_write` takes. -/
def accepted (data : Bytes) : Except SslFailure Nat → Nat
  | .ok written => min written data.length
  | .error _ => 0

/-- Write some first bytes of `data`; how many were written. -/
def write (platform : Platform) (data : Bytes) (io : TlsIo) :
    (IoStatus × Nat) × TlsIo :=
  if io.sock.state ≠ .connected then
    ((.error, 0), io.setError (Bytes.ofString "Write on socket that is not connected"))
  else
    let answer := takeAnswer (.error .wantWrite) io.env.writes
    let io := ({ io with env.writes := answer.2 } : TlsIo).log
      (.sslWrite data (accepted data answer.1))
    match answer.1 with
    | .ok written => ((.ok, min written data.length), io)
    | .error failure =>
        let mapped := mapSslError platform failure (Bytes.ofString "SSL_write") io
        ((mapped.1, 0), mapped.2)

def close (io : TlsIo) : TlsIo :=
  let io := if io.sock.ssl.isSome ∧ io.sock.state = .connected then
    io.log .sslShutdown else io
  let io := ({ io with sock.ssl := none, sock.sslCtx := none } : TlsIo).closeFd
  { io with
    sock.state := if io.sock.state ≠ .failed then .closed else io.sock.state
    sock.desiredEvents := 0 }

/-! ## What reading and writing change -/

theorem mapSslError_frame (platform : Platform) (failure : SslFailure)
    (op : Bytes) (io : TlsIo) :
    (mapSslError platform failure op io).1 ≠ .ok ∧
      (mapSslError platform failure op io).2.sock.state = io.sock.state ∧
      (mapSslError platform failure op io).2.sock.fd = io.sock.fd := by
  cases failure <;>
    simp [mapSslError, setError, setSslError, sslErrorQueueString]

/-- A write keeps the connection, and one that succeeds has used up an
answer. -/
theorem write_frame (platform : Platform) (data : Bytes) (io : TlsIo) :
    (io.write platform data).2.sock.state = io.sock.state ∧
      (io.write platform data).2.sock.fd = io.sock.fd ∧
      ((io.write platform data).1.1 = .ok →
        (io.write platform data).2.env.writes.length < io.env.writes.length) := by
  unfold write
  split_ifs with connected
  · exact ⟨rfl, rfl, fun impossible => by cases impossible⟩
  · cases answers : io.env.writes with
    | nil => exact ⟨rfl, rfl, fun impossible => by cases impossible⟩
    | cons answer rest =>
        cases answer with
        | ok written =>
            exact ⟨rfl, rfl, fun _ => by simp [takeAnswer, log]⟩
        | error failure =>
            simp only [takeAnswer, List.headD_cons, List.tail_cons]
            have frame := mapSslError_frame platform failure
              (Bytes.ofString "SSL_write")
              (({ io with env.writes := rest } : TlsIo).log (.sslWrite data 0))
            exact ⟨frame.2.1, frame.2.2, fun ok => absurd ok frame.1⟩

@[inherit_doc write_frame]
theorem read_frame (platform : Platform) (len : Nat) (io : TlsIo) :
    (io.read platform len).2.sock.state = io.sock.state ∧
      (io.read platform len).2.sock.fd = io.sock.fd ∧
      ((io.read platform len).1.1 = .ok →
        (io.read platform len).2.env.reads.length < io.env.reads.length) := by
  unfold read
  split_ifs with connected
  · exact ⟨rfl, rfl, fun impossible => by cases impossible⟩
  · cases answers : io.env.reads with
    | nil => exact ⟨rfl, rfl, fun impossible => by cases impossible⟩
    | cons answer rest =>
        cases answer with
        | ok bytes =>
            exact ⟨rfl, rfl, fun _ => by simp [takeAnswer, log]⟩
        | error failure =>
            simp only [takeAnswer, List.headD_cons, List.tail_cons]
            have frame := mapSslError_frame platform failure
              (Bytes.ofString "SSL_read")
              (({ io with env.reads := rest } : TlsIo).log .sslRead)
            exact ⟨frame.2.1, frame.2.2, fun ok => absurd ok frame.1⟩

theorem close_error (io : TlsIo) : io.close.sock.error = io.sock.error := by
  unfold close closeFd log
  simp only
  split_ifs <;> rfl

end TlsIo

end Egrpc
