import Egrpc.Base64
import Egrpc.ChannelProcess
import Egrpc.RequestMetadata
import Egrpc.Support.Multimap

/-!
# The order of repeated metadata

A context keeps the metadata of a call in a multimap whose keys are the spellings
that the caller used.  `BlockingUnaryCallShim` hands the entries on in the order of
that map, and only then are the keys lowercased.  Values under one key therefore
keep the order of the calls as long as the key is spelled in one way, and may change
places when it is spelled in several.
-/

namespace Egrpc

/-- The send side of a context.  The latest time point stands for no deadline. -/
structure ClientContext where
  deadline : Option Int := none
  sendInitialMetadata : HeaderList := []

namespace ClientContext

def addMetadata (context : ClientContext) (key value : Bytes) : ClientContext :=
  { context with
    sendInitialMetadata := Multimap.emplace (· < ·) (key, value) context.sendInitialMetadata }

/-- The calls of `AddMetadata` on a context, in order. -/
def addAll (context : ClientContext) (calls : List Header) : ClientContext :=
  calls.foldl (fun context call => context.addMetadata call.1 call.2) context

end ClientContext

/-- `BlockingUnaryCallShim` up to the call of `UnaryCall`: the arguments of that call,
or the status that the shim returns without it.  A lame channel has a status and no
implementation. -/
def blockingUnaryCallShim (lameStatus : Option (StatusCode × Bytes)) (now : Int)
    (method : Bytes) (context : ClientContext) (request : Bytes) :
    Except (StatusCode × Bytes) UnaryCallArguments :=
  match lameStatus with
  | some status => .error status
  | none =>
      let arguments timeout : UnaryCallArguments :=
        { methodPath := method
          request := request
          metadata := context.sendInitialMetadata
          timeout := timeout }
      match context.deadline with
      | none => .ok (arguments none)
      | some deadline =>
          if deadline ≤ now then
            .error (.deadlineExceeded, Bytes.ofString "Deadline Exceeded")
          else .ok (arguments (some (deadline - now)))

/-- The header block submitted for a call. -/
def PendingCall.requestHeaders (config : ChannelConfig) (pc : PendingCall) : HeaderList :=
  buildRequestHeaders config.authority pc.methodPath pc.timeout pc.metadata
    config.options.userAgentPrefix

/-! ## The metadata on its way -/

/-- The map enumerates the calls that were made. -/
theorem ClientContext.enumerates_addAll (context : ClientContext) {earlier : List Header}
    (enumerates : Multimap.Enumerates earlier context.sendInitialMetadata)
    (calls : List Header) :
    Multimap.Enumerates (earlier ++ calls) (context.addAll calls).sendInitialMetadata := by
  induction calls generalizing context earlier with
  | nil =>
      rw [List.append_nil]
      exact enumerates
  | cons call calls ih =>
      have added : Multimap.Enumerates (earlier ++ [call])
          (context.addMetadata call.1 call.2).sendInitialMetadata :=
        enumerates.emplace call
      simpa [ClientContext.addAll] using ih _ added

theorem metadata_of_blockingUnaryCallShim {lameStatus : Option (StatusCode × Bytes)}
    {now : Int} {method request : Bytes} {context : ClientContext}
    {arguments : UnaryCallArguments}
    (called : blockingUnaryCallShim lameStatus now method context request = .ok arguments) :
    arguments.metadata = context.sendInitialMetadata := by
  unfold blockingUnaryCallShim at called
  split at called
  · cases called
  · simp only at called
    split at called
    · cases called
      rfl
    · split_ifs at called
      cases called
      rfl

theorem UnaryCallArguments.metadata_of_check {config : ChannelConfig} {call : Nat}
    {arguments : UnaryCallArguments} {pc : PendingCall}
    (posted : arguments.check config call = .post pc) : pc.metadata = arguments.metadata := by
  rw [UnaryCallArguments.eq_of_check posted]

/-- The headers under an unreserved key are the caller's. -/
theorem headers_named (authority methodPath : Bytes) (timeout : Option Int)
    (metadata : HeaderList) (userAgentPrefix key : Bytes)
    (unreserved : ¬ ReservedKey key) :
    ((buildRequestHeaders authority methodPath timeout metadata userAgentPrefix).filter
      fun header => decide (header.1 = key)).map Prod.snd =
        (metadata.filter fun pair => decide (lowerKey pair.1 = key)).map
          fun pair => wireValue key pair.2 := by
  have notOwned : (buildRequestHeaders authority methodPath timeout [] userAgentPrefix).filter
      (fun header => decide (header.1 = key)) = [] := by
    rw [List.filter_eq_nil_iff]
    intro header member named
    have isOwned : header.1 ∈ transportNames := by
      have nameMember := List.mem_map_of_mem (f := Prod.fst) member
      rw [buildRequestHeaders_names] at nameMember
      exact List.mem_of_mem_take nameMember
    rw [decide_eq_true_eq] at named
    exact unreserved (.inr (List.mem_append_left _ (named ▸ isOwned)))
  rw [buildRequestHeaders_append, List.filter_append, notOwned, List.nil_append]
  induction metadata with
  | nil => rfl
  | cons pair metadata ih =>
      rw [List.filterMap_cons, metadataHeader_eq]
      by_cases named : lowerKey pair.1 = key
      · simp [named, unreserved, ih]
      · by_cases reserved : ReservedKey (lowerKey pair.1) <;> simp [named, reserved, ih]

theorem wireValue_injective (key : Bytes) : Function.Injective (wireValue key) := by
  intro first second same
  unfold wireValue at same
  split_ifs at same
  · have decoded := base64Decode_base64Encode first
    rw [same, base64Decode_base64Encode] at decoded
    exact (Option.some.inj decoded).symm
  · exact same

/-! ## The order on the wire -/

/-- In the header block of a call, the values under a key are in the order of the
`AddMetadata` calls for it exactly if each of those calls has the value of the call
at its rank: the number of calls with a smaller spelling of the key and of earlier
ones with the same spelling. -/
theorem metadata_order_kept_iff (config : ChannelConfig) (calls : List Header)
    (deadline : Option Int) (now : Int) (method request : Bytes) (call : Nat)
    {arguments : UnaryCallArguments} {pc : PendingCall}
    (called : blockingUnaryCallShim none now method
      (({ deadline := deadline } : ClientContext).addAll calls) request = .ok arguments)
    (posted : arguments.check config call = .post pc) (key : Bytes)
    (unreserved : ¬ ReservedKey key) :
    let spelled := calls.filter fun pair => decide (lowerKey pair.1 = key)
    (∀ platform io, World.submitRequest platform config pc io =
      io.submitUnaryRequest platform (pc.requestHeaders config) pc.framedBody
        (World.makeStreamHooks pc.call)) ∧
    ((((pc.requestHeaders config).filter fun header => decide (header.1 = key)).map
        Prod.snd = spelled.map fun pair => wireValue key pair.2) ↔
      ∀ index : Fin spelled.length,
        (spelled.map Prod.snd)[Multimap.rank spelled index]? = some (spelled.get index).2) := by
  intro spelled
  refine ⟨fun _ _ => rfl, ?_⟩
  have enumerates := ClientContext.enumerates_addAll { deadline := deadline }
    Multimap.Enumerates.nil calls
  rw [List.nil_append, ← metadata_of_blockingUnaryCallShim called,
    ← UnaryCallArguments.metadata_of_check posted] at enumerates
  have ofKey := enumerates.filter fun pair => decide (lowerKey pair.1 = key)
  have values : ∀ pairs : HeaderList, (pairs.map fun pair => wireValue key pair.2) =
      (pairs.map Prod.snd).map (wireValue key) :=
    fun pairs => by rw [List.map_map]; rfl
  rw [PendingCall.requestHeaders, headers_named _ _ _ _ _ _ unreserved, values, values,
    (List.map_injective_iff.mpr (wireValue_injective key)).eq_iff]
  exact ofKey.values_eq_iff

/-- Two calls that spell the key alike keep their order. -/
theorem one_spelling_keeps_order :
    let calls : List Header := [(Bytes.ofString "K", [2]), (Bytes.ofString "K", [1])]
    ((({ call := 0, framedBody := [0, 0, 0, 0, 0], metadata := calls } :
      PendingCall).requestHeaders { host := [], port := 443 }).filter
        fun header => decide (header.1 = Bytes.ofString "k")).map Prod.snd = [[2], [1]] := by
  intro calls
  exact ((metadata_order_kept_iff { host := [], port := 443 } calls none 0 [] [] 0 rfl rfl
    (Bytes.ofString "k") (by decide)).2.mpr (by decide)).trans (by decide)

/-- Two calls that spell the key differently change places. -/
theorem two_spellings_change_places :
    let calls : List Header := [(Bytes.ofString "k", [1]), (Bytes.ofString "K", [2])]
    let config : ChannelConfig := { host := Bytes.ofString "localhost", port := 443 }
    ∃ arguments pc, blockingUnaryCallShim none 0 (Bytes.ofString "/pkg.Svc/M")
        (({} : ClientContext).addAll calls) [] = .ok arguments ∧
      arguments.check config 0 = .post pc ∧
      ¬ ReservedKey (Bytes.ofString "k") ∧
      ((pc.requestHeaders config).filter
        fun header => decide (header.1 = Bytes.ofString "k")).map Prod.snd = [[2], [1]] ∧
      ¬ ((pc.requestHeaders config).filter
          fun header => decide (header.1 = Bytes.ofString "k")).map Prod.snd =
        (calls.filter fun pair => decide (lowerKey pair.1 = Bytes.ofString "k")).map
          fun pair => wireValue (Bytes.ofString "k") pair.2 := by
  intro calls config
  exact ⟨_, _, rfl, rfl, by decide, by decide, by decide⟩

end Egrpc
