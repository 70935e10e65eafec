import Egrpc.CreateChannel
import Mathlib.Data.List.AList

/-!
# Creating a channel

`CreateCustomChannel` turns a target, credentials and a bag of arguments into a channel.
What it cannot serve becomes a lame channel, which has a status and no transport.  The
arguments are set by calls in any number and order; of those that are honoured, only
values that make sense replace a default.
-/

namespace Egrpc

structure Status where
  code : StatusCode := .ok
  message : Bytes := []
  details : Bytes := []
  deriving DecidableEq

/-! ## Credentials and arguments -/

/-- The trust anchors and the client's identity, as PEM texts. -/
structure SslCredentialsOptions where
  pemRootCerts : Bytes := []
  pemPrivateKey : Bytes := []
  pemCertChain : Bytes := []

/-- Only the two factories below make credentials. -/
structure ChannelCredentials where
  secure : Bool
  sslOptions : SslCredentialsOptions

def sslCredentials (options : SslCredentialsOptions) : ChannelCredentials where
  secure := true
  sslOptions := options

def insecureChannelCredentials : ChannelCredentials where
  secure := false
  sslOptions := {}

/-- The arguments of a channel, by their names. -/
structure ChannelArguments where
  ints : AList (fun _ : Bytes => Int32) := ∅
  strings : AList (fun _ : Bytes => Bytes) := ∅

namespace ChannelArguments

def keepaliveTimeMs : Bytes := Bytes.ofString "grpc.keepalive_time_ms"
def keepaliveTimeoutMs : Bytes := Bytes.ofString "grpc.keepalive_timeout_ms"
def keepalivePermitWithoutCalls : Bytes :=
  Bytes.ofString "grpc.keepalive_permit_without_calls"
def maxReceiveMessageLength : Bytes := Bytes.ofString "grpc.max_receive_message_length"
def maxSendMessageLength : Bytes := Bytes.ofString "grpc.max_send_message_length"
def primaryUserAgent : Bytes := Bytes.ofString "grpc.primary_user_agent"

inductive Call
  | setInt (key : Bytes) (value : Int32)
  | setString (key value : Bytes)
  | setMaxReceiveMessageSize (size : Int32)
  | setMaxSendMessageSize (size : Int32)
  | setUserAgentPrefix (userAgentPrefix : Bytes)

def setInt (args : ChannelArguments) (key : Bytes) (value : Int32) : ChannelArguments :=
  { args with ints := args.ints.insert key value }

def setString (args : ChannelArguments) (key value : Bytes) : ChannelArguments :=
  { args with strings := args.strings.insert key value }

def apply (args : ChannelArguments) : Call → ChannelArguments
  | .setInt key value => args.setInt key value
  | .setString key value => args.setString key value
  | .setMaxReceiveMessageSize size => args.setInt maxReceiveMessageLength size
  | .setMaxSendMessageSize size => args.setInt maxSendMessageLength size
  | .setUserAgentPrefix userAgentPrefix => args.setString primaryUserAgent userAgentPrefix

def ofCalls (calls : List Call) : ChannelArguments :=
  calls.foldl apply {}

/-- An argument that is honoured only if it is positive. -/
def positiveArg (args : ChannelArguments) (key : Bytes) : Option Int32 :=
  (args.ints.lookup key).filter (0 < ·)

end ChannelArguments

/-! ## The channel -/

/-- A channel without a transport, or one over a `ChannelImpl`. -/
inductive Channel
  | lame (status : Status)
  | fromImpl (config : ChannelConfig)

/-- The part of `CreateCustomChannel` that reads the arguments. -/
def channelOptions (args : ChannelArguments) : ChannelOptions :=
  let options : ChannelOptions := {}
  let options := match args.positiveArg ChannelArguments.keepaliveTimeMs with
    | none => options
    | some v => { options with http2 := { options.http2 with keepaliveTime := v.toInt } }
  let options := match args.positiveArg ChannelArguments.keepaliveTimeoutMs with
    | none => options
    | some v => { options with http2 := { options.http2 with keepaliveTimeout := v.toInt } }
  let options := match args.ints.lookup ChannelArguments.keepalivePermitWithoutCalls with
    | none => options
    | some v =>
        { options with http2 := { options.http2 with keepalivePermitWithoutCalls := v ≠ 0 } }
  let options := match args.positiveArg ChannelArguments.maxReceiveMessageLength with
    | none => options
    | some v => { options with maxReceiveMessageSize := v.toInt.toNat }
  let options := match args.positiveArg ChannelArguments.maxSendMessageLength with
    | none => options
    | some v => { options with maxSendMessageSize := v.toInt.toNat }
  match args.strings.lookup ChannelArguments.primaryUserAgent with
  | none => options
  | some v => { options with userAgentPrefix := v }

def createCustomChannel (target : Bytes) (creds : Option ChannelCredentials)
    (args : ChannelArguments) : Channel :=
  match creds with
  | none =>
      .lame
        { code := .invalidArgument
          message := Bytes.ofString "null channel credentials" }
  | some creds =>
      if creds.secure = false then
        .lame
          { code := .unimplemented
            message := Bytes.ofString
              "insecure channels are not supported (egrpc v0.1 is TLS-only)" }
      else
        let ssl := creds.sslOptions
        if ssl.pemPrivateKey ≠ [] ∨ ssl.pemCertChain ≠ [] then
          .lame
            { code := .unimplemented
              message := Bytes.ofString
                "in-memory mTLS client identity is not supported yet (egrpc v0.1)" }
        else
          match parseTarget target with
          | none =>
              .lame
                { code := .invalidArgument
                  message := Bytes.ofString "unsupported channel target: " ++ target }
          | some (host, port) =>
              .fromImpl
                { host := host
                  port := port
                  tls := { caBundlePem := ssl.pemRootCerts }
                  options := channelOptions args }

def createChannel (target : Bytes) (creds : Option ChannelCredentials) : Channel :=
  createCustomChannel target creds {}

/-! ## The last call counts -/

namespace ChannelArguments

/-- The value that a call sets an argument to. -/
def Call.int? (key : Bytes) : Call → Option Int32
  | .setInt named value => if key = named then some value else none
  | .setMaxReceiveMessageSize size => if key = maxReceiveMessageLength then some size else none
  | .setMaxSendMessageSize size => if key = maxSendMessageLength then some size else none
  | .setString _ _ | .setUserAgentPrefix _ => none

@[inherit_doc Call.int?]
def Call.string? (key : Bytes) : Call → Option Bytes
  | .setString named value => if key = named then some value else none
  | .setUserAgentPrefix value => if key = primaryUserAgent then some value else none
  | .setInt _ _ | .setMaxReceiveMessageSize _ | .setMaxSendMessageSize _ => none

/-- The value that the last call for an argument set. -/
def lastInt (calls : List Call) (key : Bytes) : Option Int32 :=
  (calls.filterMap (Call.int? key)).getLast?

@[inherit_doc lastInt]
def lastString (calls : List Call) (key : Bytes) : Option Bytes :=
  (calls.filterMap (Call.string? key)).getLast?

theorem lookup_setInt (args : ChannelArguments) (key named : Bytes) (value : Int32) :
    (args.setInt named value).ints.lookup key =
      (if key = named then some value else none).or (args.ints.lookup key) := by
  split_ifs with same
  · subst same
    exact AList.lookup_insert _
  · exact AList.lookup_insert_ne same

theorem lookup_setString (args : ChannelArguments) (key named value : Bytes) :
    (args.setString named value).strings.lookup key =
      (if key = named then some value else none).or (args.strings.lookup key) := by
  split_ifs with same
  · subst same
    exact AList.lookup_insert _
  · exact AList.lookup_insert_ne same

theorem lookup_apply (args : ChannelArguments) (call : Call) (key : Bytes) :
    (args.apply call).ints.lookup key = (call.int? key).or (args.ints.lookup key) ∧
      (args.apply call).strings.lookup key =
        (call.string? key).or (args.strings.lookup key) := by
  cases call with
  | setInt named value => exact ⟨lookup_setInt args key named value, rfl⟩
  | setString named value => exact ⟨rfl, lookup_setString args key named value⟩
  | setMaxReceiveMessageSize size => exact ⟨lookup_setInt args key _ size, rfl⟩
  | setMaxSendMessageSize size => exact ⟨lookup_setInt args key _ size, rfl⟩
  | setUserAgentPrefix value => exact ⟨rfl, lookup_setString args key _ value⟩

/-- An argument has the value of the last call for it. -/
theorem lookup_ofCalls (calls : List Call) (key : Bytes) :
    (ofCalls calls).ints.lookup key = lastInt calls key ∧
      (ofCalls calls).strings.lookup key = lastString calls key := by
  induction calls using List.reverseRecOn with
  | nil => exact ⟨AList.lookup_empty key, AList.lookup_empty key⟩
  | append_singleton calls call ih =>
      obtain ⟨ints, strings⟩ := lookup_apply (ofCalls calls) call key
      have after : ofCalls (calls ++ [call]) = (ofCalls calls).apply call := by
        simp [ofCalls]
      rw [after, ints, strings, ih.1, ih.2]
      constructor
      · cases set : call.int? key <;> simp [lastInt, set]
      · cases set : call.string? key <;> simp [lastString, set]

end ChannelArguments

/-! ## What is served -/

open ChannelArguments in
/-- The options that some calls ask for: the value of the last call for each, unless it
makes no sense. -/
def honouredOptions (calls : List ChannelArguments.Call) : ChannelOptions :=
  let options : ChannelOptions := {}
  let positive key := (lastInt calls key).filter (0 < ·)
  { options with
    http2 :=
      { options.http2 with
        keepaliveTime :=
          ((positive keepaliveTimeMs).map Int32.toInt).getD options.http2.keepaliveTime
        keepaliveTimeout :=
          ((positive keepaliveTimeoutMs).map Int32.toInt).getD options.http2.keepaliveTimeout
        keepalivePermitWithoutCalls :=
          ((lastInt calls keepalivePermitWithoutCalls).map fun v => decide (v ≠ 0)).getD
            options.http2.keepalivePermitWithoutCalls }
    maxReceiveMessageSize :=
      ((positive maxReceiveMessageLength).map fun v => v.toInt.toNat).getD
        options.maxReceiveMessageSize
    maxSendMessageSize :=
      ((positive maxSendMessageLength).map fun v => v.toInt.toNat).getD
        options.maxSendMessageSize
    userAgentPrefix := (lastString calls primaryUserAgent).getD options.userAgentPrefix }

theorem channelOptions_ofCalls (calls : List ChannelArguments.Call) :
    channelOptions (.ofCalls calls) = honouredOptions calls := by
  unfold channelOptions honouredOptions ChannelArguments.positiveArg
  simp only [ChannelArguments.lookup_ofCalls]
  -- The six arguments are set one after the other, each in a field of its own.
  generalize (ChannelArguments.lastInt calls ChannelArguments.keepaliveTimeMs).filter _ = time
  generalize (ChannelArguments.lastInt calls ChannelArguments.keepaliveTimeoutMs).filter _ =
    timeout
  generalize ChannelArguments.lastInt calls ChannelArguments.keepalivePermitWithoutCalls =
    permit
  generalize (ChannelArguments.lastInt calls ChannelArguments.maxReceiveMessageLength).filter _ =
    receive
  generalize (ChannelArguments.lastInt calls ChannelArguments.maxSendMessageLength).filter _ =
    send
  generalize ChannelArguments.lastString calls _ = agent
  cases time <;> cases timeout <;> cases permit <;> cases receive <;> cases send <;>
    cases agent <;> rfl

/-- Limits that the scanner and the keepalive clock can work with. -/
structure ChannelOptions.InRange (options : ChannelOptions) : Prop where
  keepaliveTime : 0 < options.http2.keepaliveTime
  keepaliveTimeout : 0 < options.http2.keepaliveTimeout
  maxReceiveMessageSize : 0 < options.maxReceiveMessageSize ∧
    options.maxReceiveMessageSize ≤ 2147483647
  maxSendMessageSize : 0 < options.maxSendMessageSize
  connectTimeout : 0 < options.connectTimeout

theorem positive_getD {value : Option Int32} {default : Int} (positive : 0 < default) :
    0 < ((value.filter (0 < ·)).map Int32.toInt).getD default := by
  cases kept : value.filter (0 < ·) with
  | none => exact positive
  | some v =>
      have isPositive := (Option.filter_eq_some_iff.mp kept).2
      rw [decide_eq_true_eq, Int32.lt_iff_toInt_lt] at isPositive
      exact isPositive

theorem positive_getD_toNat {value : Option Int32} {default : Nat} (positive : 0 < default) :
    0 < ((value.filter (0 < ·)).map fun v => v.toInt.toNat).getD default := by
  cases kept : value.filter (0 < ·) with
  | none => exact positive
  | some v =>
      have isPositive := (Option.filter_eq_some_iff.mp kept).2
      rw [decide_eq_true_eq, Int32.lt_iff_toInt_lt] at isPositive
      exact Int.lt_toNat.mpr isPositive

theorem honouredOptions_inRange (calls : List ChannelArguments.Call) :
    (honouredOptions calls).InRange where
  keepaliveTime := positive_getD (by decide)
  keepaliveTimeout := positive_getD (by decide)
  maxReceiveMessageSize := by
    refine ⟨positive_getD_toNat (by decide), ?_⟩
    simp only [honouredOptions]
    cases (ChannelArguments.lastInt calls ChannelArguments.maxReceiveMessageLength).filter
        (0 < ·) with
    | none => decide
    | some v =>
        have := v.toInt_lt
        simp only [Option.map_some, Option.getD_some]
        omega
  maxSendMessageSize := positive_getD_toNat (by decide)
  connectTimeout := show 0 < ({} : ChannelOptions).connectTimeout by decide

/-- What a channel is created for: credentials that name trust anchors only, a target of
the grammar, and calls that set arguments. -/
structure Channel.Serves (target : Bytes) (creds : Option ChannelCredentials)
    (calls : List ChannelArguments.Call) (config : ChannelConfig) : Prop where
  target : TargetForm target config.host config.port
  trust : ∃ roots, creds = some (sslCredentials { pemRootCerts := roots }) ∧
    config.tls = { caBundlePem := roots }
  options : config.options = honouredOptions calls

namespace Channel

variable {target : Bytes} {creds : Option ChannelCredentials}
  {calls : List ChannelArguments.Call} {config : ChannelConfig}

theorem serves_of_created
    (created : createCustomChannel target creds (.ofCalls calls) = .fromImpl config) :
    Serves target creds calls config := by
  unfold createCustomChannel at created
  split at created
  · cases created
  · rename_i given
    simp only at created
    split_ifs at created with insecure identity
    split at created
    · cases created
    · rename_i host port parsed
      cases created
      rw [not_or, not_not, not_not] at identity
      refine ⟨parseTarget_eq_some.mp parsed, ⟨given.sslOptions.pemRootCerts, ?_, rfl⟩,
        channelOptions_ofCalls calls⟩
      obtain ⟨secure, roots, key, chain⟩ := given
      obtain ⟨rfl, rfl⟩ := identity
      cases Bool.eq_true_of_not_eq_false insecure
      rfl

theorem Serves.created (serves : Serves target creds calls config) :
    createCustomChannel target creds (.ofCalls calls) = .fromImpl config := by
  obtain ⟨roots, rfl, tls⟩ := serves.trust
  have parsed := parseTarget_eq_some.mpr serves.target
  have computed : createCustomChannel target
      (some (sslCredentials { pemRootCerts := roots })) (.ofCalls calls) =
      .fromImpl { config with
        tls := { caBundlePem := roots }, options := honouredOptions calls } := by
    simp [createCustomChannel, sslCredentials, parsed, channelOptions_ofCalls]
  rw [computed, ← tls, ← serves.options]

/-- No argument turns the check of the peer's certificate off. -/
theorem Serves.verified (serves : Serves target creds calls config) :
    config.tls.insecureSkipVerifyForTestingOnly = false := by
  obtain ⟨roots, _, tls⟩ := serves.trust
  rw [tls]

end Channel

/-- Whatever calls set the arguments, a channel is created over an implementation exactly
for credentials that name trust anchors and no client identity, and a target of the
grammar. It then has the host and the port of the target, checks the peer's certificate,
and for each argument that is honoured has the value of the last call that set it, if
that makes sense, or the default. So its limits are in the range that the scanner and the
keepalive clock need. -/
theorem custom_channel_serves_iff (target : Bytes) (creds : Option ChannelCredentials)
    (calls : List ChannelArguments.Call) (config : ChannelConfig) :
    (createCustomChannel target creds (.ofCalls calls) = .fromImpl config ↔
      Channel.Serves target creds calls config) ∧
    (Channel.Serves target creds calls config →
      config.options.InRange ∧ config.tls.insecureSkipVerifyForTestingOnly = false) := by
  refine ⟨⟨Channel.serves_of_created, Channel.Serves.created⟩, ?_⟩
  intro serves
  rw [serves.options]
  exact ⟨honouredOptions_inRange calls, serves.verified⟩

/-- A later call wins, and a value that makes no sense leaves the default. -/
example :
    let options := channelOptions (.ofCalls [.setMaxReceiveMessageSize 10,
      .setInt ChannelArguments.maxReceiveMessageLength 20, .setMaxSendMessageSize (-1)])
    options.maxReceiveMessageSize = 20 ∧
      options.maxSendMessageSize = ({} : ChannelOptions).maxSendMessageSize := by
  decide

end Egrpc
