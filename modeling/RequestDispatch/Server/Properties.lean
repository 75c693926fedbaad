import RequestDispatch.Settings.Environment

/-!
Properties of a server, as the environment of an application gives them.
-/

namespace RequestDispatch

structure ServerProperties where
  host : String
  port : UInt16
  /-- The greatest length of the body of a request in bytes. -/
  maxBodySize : Nat
  /-- Scripts of pages from elsewhere may call the server. -/
  allowsOtherOrigins : Bool
  logsRequests : Bool
  deriving DecidableEq, Repr

namespace ServerProperties

def standard : ServerProperties := ⟨"0.0.0.0", 8080, 2 * 1024 * 1024, false, true⟩

/-- Reads the properties. The port is checked before the greatest length of a body. -/
def ofEnvironment (environment : Environment) : Except SettingsProblem ServerProperties :=
  let port := (environment.int "server.port" 8080).toInt
  let size := (environment.int "server.max-body-size" (2 * 1024 * 1024)).toInt
  if port < 0 || 65535 < port then .error (.outOfRange "server.port" port)
  else if size < 0 then .error (.negative "server.max-body-size" size)
  else
    .ok { host := environment.text "server.host" standard.host
          port := UInt16.ofNat port.toNat
          maxBodySize := size.toNat
          allowsOtherOrigins := environment.bool "server.enable-cors" standard.allowsOtherOrigins
          logsRequests :=
            environment.bool "server.enable-request-logging" standard.logsRequests }

def address (properties : ServerProperties) : String :=
  properties.host ++ ":" ++ toString properties.port.toNat

end ServerProperties
end RequestDispatch
