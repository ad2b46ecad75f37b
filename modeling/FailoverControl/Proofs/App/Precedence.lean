import FailoverControl.Proofs.App.Ending
import FailoverControl.Proofs.CommandLine.Endpoint
import FailoverControl.Proofs.Settings.Assignments

/-!
# Which setting counts

The address of the daemon comes from the command line, else from the environment that the process is
started with; the file of variables is read too late to give it. Colors are settled later, so there
a variable of the process comes first and an assignment of the file second.

The main statement: `settings_precedence`. What a file assigns to the variable of the address is
lost: `not_connectsTo_assigned`.
-/

set_option autoImplicit false

namespace FailoverControl.App

open FailoverControl.CommandLine (givenUris standardUri uriVariable)
open FailoverControl.Console (Context)
open FailoverControl.Rpc (Endpoint Network Opening Server)

/-- A run turns to an address. Nothing counts but what answers there to the opening request for the
address; when nothing does, when no plain websocket is asked for, or when the text is no address,
the run says so and fails. A server that completes the handshake is the one that the command is run
with. -/
structure Launch.ConnectsTo (launch : Launch) (startup : Startup) (uri : String) : Prop where
  only {σ : Type} (machine : Machine) {network network' : Network σ}
    (hsame : ∀ endpoint, Endpoint.parse uri = .ok endpoint →
      network.turnTo endpoint = network'.turnTo endpoint) :
    run launch machine network = run launch machine network'
  there {σ : Type} (machine : Machine) {network : Network σ} {endpoint : Endpoint}
    {cause : Host.IoError} (hendpoint : Endpoint.parse uri = .ok endpoint)
    (hdial : network.dial endpoint.host endpoint.service = .failed cause) :
    (run launch machine network).exit = .code 1 ∧
      (run launch machine network).transcript.getLast? =
        some (failureOutput startup.palette (.connectionSetup (.socket (.io cause))))
  plainly {σ : Type} (machine : Machine) {network : Network σ} {endpoint : Endpoint}
    {peer : Opening → Server σ} {cause : Rpc.EndpointError}
    (hendpoint : Endpoint.parse uri = .ok endpoint)
    (hdial : network.dial endpoint.host endpoint.service = .connected peer)
    (hscheme : endpoint.checkScheme = .error cause) :
    (run launch machine network).exit = .code 1 ∧
      (run launch machine network).transcript.getLast? =
        some (failureOutput startup.palette (.connectionSetup (.socket (.endpoint cause))))
  served {σ : Type} (machine : Machine) {network : Network σ} {endpoint : Endpoint}
    {peer : Opening → Server σ} (hendpoint : Endpoint.parse uri = .ok endpoint)
    (hdial : network.dial endpoint.host endpoint.service = .connected peer)
    (hscheme : endpoint.checkScheme = .ok ())
    (hgreeting : (peer endpoint.opening).greeting = .upgraded) :
    (run launch machine network).exit =
        (startup.command machine ((peer endpoint.opening).client uri)).exit ∧
      (run launch machine network).delivered =
        (startup.command machine ((peer endpoint.opening).client uri)).delivered
  malformed {σ : Type} (machine : Machine) (network : Network σ) {cause : Rpc.SocketError}
    (hcause : Endpoint.parse uri = .error cause) :
    (run launch machine network).exit = .code 1 ∧
      (run launch machine network).transcript.getLast? =
        some (failureOutput startup.palette (.connectionSetup (.socket cause)))

/-! ## The address -/

section Connecting

variable {σ : Type} {launch : Launch} {startup : Startup} {network network' : Network σ}

/-- A connection depends on what answers at its address. -/
theorem connect_congr {uri : String} (timeout : Duration)
    (hsame : ∀ endpoint, Endpoint.parse uri = .ok endpoint →
      network.turnTo endpoint = network'.turnTo endpoint) :
    Rpc.connect network uri timeout = Rpc.connect network' uri timeout := by
  unfold Rpc.connect
  cases hendpoint : Endpoint.parse uri with
  | error cause => rfl
  | ok endpoint =>
    simp only [Except.mapError, bind, Except.bind]
    rw [hsame endpoint hendpoint]

/-- Nobody is connected to where dialling fails. -/
theorem connect_of_failed {uri : String} {endpoint : Endpoint} {cause : Host.IoError}
    (timeout : Duration) (hendpoint : Endpoint.parse uri = .ok endpoint)
    (hdial : network.dial endpoint.host endpoint.service = .failed cause) :
    Rpc.connect network uri timeout = .error (.socket (.io cause)) := by
  simp only [Rpc.connect, hendpoint, Except.mapError, bind, Except.bind, Network.turnTo, hdial]
  rfl

/-- Nobody is connected to by another kind of address than that of a plain websocket. -/
theorem connect_of_unspoken {uri : String} {endpoint : Endpoint} {peer : Opening → Server σ}
    {cause : Rpc.EndpointError} (timeout : Duration)
    (hendpoint : Endpoint.parse uri = .ok endpoint)
    (hdial : network.dial endpoint.host endpoint.service = .connected peer)
    (hscheme : endpoint.checkScheme = .error cause) :
    Rpc.connect network uri timeout = .error (.socket (.endpoint cause)) := by
  simp only [Rpc.connect, hendpoint, Except.mapError, bind, Except.bind, Network.turnTo, hdial,
    hscheme]

/-- A server that completes the handshake is connected to. -/
theorem connect_of_upgraded {uri : String} {endpoint : Endpoint} {peer : Opening → Server σ}
    (timeout : Duration) (hendpoint : Endpoint.parse uri = .ok endpoint)
    (hdial : network.dial endpoint.host endpoint.service = .connected peer)
    (hscheme : endpoint.checkScheme = .ok ())
    (hgreeting : (peer endpoint.opening).greeting = .upgraded) :
    Rpc.connect network uri timeout = .ok ((peer endpoint.opening).client uri) := by
  simp only [Rpc.connect, hendpoint, Except.mapError, bind, Except.bind, Network.turnTo, hdial,
    hscheme, hgreeting]
  rfl

/-- Nobody is connected to by a text that is no address. -/
theorem connect_of_malformed {uri : String} {cause : Rpc.SocketError} (timeout : Duration)
    (hcause : Endpoint.parse uri = .error cause) :
    Rpc.connect network uri timeout = .error (.socket cause) := by
  simp only [Rpc.connect, hcause, Except.mapError, bind, Except.bind]

/-- A run that is not connected ends with the cause. -/
theorem run_of_unconnected {cause : Rpc.Failure} (hstart : launch.start = .ok startup)
    (machine : Machine)
    (hconnect : Rpc.connect network startup.arguments.uri connectTimeout = .error cause) :
    (run launch machine network).exit = .code 1 ∧
      (run launch machine network).transcript.getLast? =
        some (failureOutput startup.palette (.connectionSetup cause)) := by
  refine ⟨by simp only [run, hstart, Startup.run, hconnect], ?_⟩
  rw [transcript_of_unconnected hstart hconnect, List.filter_append]
  simp [isShown, failureOutput]

/-- A run turns to the address that its arguments hold. -/
theorem connectsTo_arguments (hstart : launch.start = .ok startup) :
    launch.ConnectsTo startup startup.arguments.uri where
  only machine _ _ hsame := by
    simp only [run, hstart, Startup.run, connect_congr connectTimeout hsame]
  there machine _ _ _ hendpoint hdial :=
    run_of_unconnected hstart machine (connect_of_failed connectTimeout hendpoint hdial)
  plainly machine _ _ _ _ hendpoint hdial hscheme :=
    run_of_unconnected hstart machine (connect_of_unspoken connectTimeout hendpoint hdial hscheme)
  served machine _ _ _ hendpoint hdial hscheme hgreeting := by
    have hconnect := connect_of_upgraded connectTimeout hendpoint hdial hscheme hgreeting
    simp only [run, hstart, Startup.run, hconnect, and_self]
  malformed machine _ _ hcause :=
    run_of_unconnected hstart machine (connect_of_malformed connectTimeout hcause)

end Connecting

/-! ## Colors -/

/-- A variable is on when it is set to anything but zero. -/
theorem isOn_eq_true_iff {env : String → Option String} {name : String} :
    Context.isOn env name = true ↔ ∃ value, env name = some value ∧ value ≠ "0" := by
  cases hvalue : env name <;> simp [Context.isOn, hvalue]

/-- Colors are wanted when they are forced, or at a terminal that can show them unless they are
refused. -/
theorem wantsColors_eq_true_iff {env : String → Option String} {terminal : Bool} :
    Context.wantsColors env terminal = true ↔
      (∃ value, env "CLICOLOR_FORCE" = some value ∧ value ≠ "0") ∨
        terminal = true ∧ (∀ value, env "NO_COLOR" = some value → value = "0") ∧
          env "TERM" ≠ some "dumb" := by
  have hoff : (!Context.isOn env "NO_COLOR") = true ↔
      ∀ value, env "NO_COLOR" = some value → value = "0" := by
    rw [Bool.not_eq_true', ← Bool.not_eq_true, isOn_eq_true_iff]
    simp
  simp only [Context.wantsColors, Bool.or_eq_true, Bool.and_eq_true, isOn_eq_true_iff, hoff,
    bne_iff_ne, and_assoc]

/-- Colors are settled by the environment once the file of variables has been read. -/
theorem colors_settled {launch : Launch} (hsettable : launch.unsettable? = none)
    {arguments : CommandLine.Arguments} :
    (launch.settled arguments).palette.context.colors =
      Context.wantsColors launch.valueOf? launch.terminal := by
  have hvariables : launch.loaded.1.get? = launch.valueOf? :=
    funext (Launch.get?_loaded hsettable)
  rw [← hvariables]
  rfl

/-! ## Precedence -/

/-- A run connects to the address of the command line, which gives at most one, else to the value of
the variable in the environment of the process, else to the standard one; the file of variables has
no part in it. Output is colored when that is forced, or at a terminal that is not dumb unless it is
turned off, and there each variable stands for its value in the environment of the process, else
for what the file assigns to it. -/
theorem settings_precedence (launch : Launch) {startup : Startup}
    (hstart : launch.start = .ok startup) :
    (givenUris launch.arguments).length ≤ 1 ∧
      startup.arguments.uri =
        ((givenUris launch.arguments).head? <|> launch.environment.get? uriVariable).getD
          standardUri ∧
      launch.ConnectsTo startup
        (((givenUris launch.arguments).head? <|> launch.environment.get? uriVariable).getD
          standardUri) ∧
      (startup.palette.context.colors = true ↔
        (∃ value, launch.valueOf? "CLICOLOR_FORCE" = some value ∧ value ≠ "0") ∨
          launch.terminal = true ∧
            (∀ value, launch.valueOf? "NO_COLOR" = some value → value = "0") ∧
            launch.valueOf? "TERM" ≠ some "dumb") ∧
      startup.palette.escapes = startup.palette.context.colors := by
  obtain ⟨arguments, hparse, hsettable, rfl⟩ := start_eq_ok_iff.mp hstart
  have huri : arguments.uri =
      ((givenUris launch.arguments).head? <|> launch.environment.get? uriVariable).getD
        standardUri := CommandLine.parse_uri hparse
  refine ⟨CommandLine.length_givenUris_le_one hparse, huri, ?_, ?_, rfl⟩
  · rw [← huri]
    exact connectsTo_arguments hstart
  · rw [colors_settled hsettable]
    exact wantsColors_eq_true_iff

/-- A launch with settings on the command line, in the environment and in a file. -/
def variedLaunch : Launch where
  arguments := ["-v", "--uri=ws://10.0.0.2:6000/", "status"]
  environment := ⟨[("HACTL_URI", "ws://10.0.0.3/"), ("NO_COLOR", "0")]⟩
  variableFile := some
    ⟨".env", Text.bytes "HACTL_URI=ws://10.0.0.4/\nNO_COLOR=1\nexport TERM='xterm' # color\n"⟩
  terminal := true

/-- The address is that of the command line. The environment keeps the file from turning colors
off, and the file says what the terminal is. -/
theorem settings_precedence_varied :
    ∃ startup, variedLaunch.start = .ok startup ∧
      startup.arguments.uri = "ws://10.0.0.2:6000/" ∧
      variedLaunch.ConnectsTo startup "ws://10.0.0.2:6000/" ∧
      variedLaunch.valueOf? "TERM" = some "xterm" ∧ startup.palette.context.colors = true := by
  obtain ⟨startup, hstart⟩ : ∃ startup, variedLaunch.start = .ok startup := ⟨_, rfl⟩
  obtain ⟨-, huri, hconnects, hcolors, -⟩ := settings_precedence variedLaunch hstart
  have hterm : variedLaunch.valueOf? "TERM" = some "xterm" := by decide +kernel
  have hnoColor : variedLaunch.valueOf? "NO_COLOR" = some "0" := by decide +kernel
  refine ⟨startup, hstart, huri, hconnects, hterm, hcolors.mpr (.inr ⟨rfl, ?_, ?_⟩)⟩
  · rw [hnoColor]
    exact fun value h => (Option.some.inj h).symm
  · rw [hterm]
    decide

/-- A launch whose address is given in a file of variables only. -/
def unheededLaunch : Launch :=
  ⟨[], ⟨[]⟩, some ⟨".env", Text.bytes "HACTL_URI=ws:///api\n"⟩, false⟩

/-- A network on which nobody listens. -/
def refusingNetwork : Network Unit := ⟨fun _ _ => .failed (.os 111)⟩

/-- What the file assigns is no address, so a run that turned to it would fail alike on every
network; the run dials the standard address instead. -/
theorem not_connectsTo_assigned :
    givenUris unheededLaunch.arguments = [] ∧
      unheededLaunch.environment.get? uriVariable = none ∧
      unheededLaunch.valueOf? uriVariable = some "ws:///api" ∧
      ∃ startup, unheededLaunch.start = .ok startup ∧ startup.arguments.uri = standardUri ∧
        ¬ unheededLaunch.ConnectsTo startup "ws:///api" := by
  refine ⟨rfl, rfl, by decide +kernel, _, rfl, rfl, fun hconnects => ?_⟩
  have hmalformed : Endpoint.parse "ws:///api" = .error (.address .invalidFormat) := by
    decide +kernel
  have halike : run unheededLaunch (typing "") Network.isolated =
      run unheededLaunch (typing "") refusingNetwork :=
    hconnects.only _ fun _ hendpoint => nomatch hmalformed.symm.trans hendpoint
  have hdiffer : (run unheededLaunch (typing "") Network.isolated).transcript ≠
      (run unheededLaunch (typing "") refusingNetwork).transcript := by decide +kernel
  exact hdiffer (congrArg Finished.transcript halike)

end FailoverControl.App
