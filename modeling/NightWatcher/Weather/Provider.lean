import NightWatcher.World

/-!
# `provider.cpp`: weather services

`makeProvider` reads the credentials of a station's config; `fetch` is one
request to the service, whose answer, parsed or failed, comes from the world.
-/

namespace NightWatcher.Weather

variable (d : Deps)

/-- The provider of a station, with the keys of its config. -/
inductive IWeatherProvider where
  | ambient (appKey apiKey mac : String)
  | wunderground (stationId apiKey : String)

/-- `name()` -/
def IWeatherProvider.name : IWeatherProvider → String
  | .ambient _ _ _ => "ambientweather"
  | .wunderground _ _ => "wunderground"

/-- `make_provider`: the provider that a station's row names, if its config has what that one
needs. -/
def makeProvider (provider configJson : String) : Except String IWeatherProvider := do
  let cfg ← if configJson = "" then .ok (.obj []) else parseJson d configJson
  if provider = "ambientweather" then
    let app ← cfg.valueOr "applicationKey" Json.getString ""
    let api ← cfg.valueOr "apiKey" Json.getString ""
    let mac ← cfg.valueOr "macAddress" Json.getString ""
    if app = "" || api = "" then
      throw "ambientweather requires applicationKey and apiKey"
    return .ambient app api mac
  if provider = "wunderground" then
    let sid ← cfg.valueOr "stationId" Json.getString ""
    let api ← cfg.valueOr "apiKey" Json.getString ""
    if sid = "" || api = "" then
      throw "wunderground requires stationId and apiKey"
    return .wunderground sid api
  throw ("unknown weather provider: '" ++ provider ++ "'")

/-- What a fetch comes to is taken from the outside here; `fetchOver` says how it is made. -/
def IWeatherProvider.fetch (p : IWeatherProvider) : Act WeatherReadingRow := fun w =>
  let effects := w.effects ++ [Effect.fetch p.name]
  match w.fetches with
  | [] => .error "request failed: Connection" { w with effects }
  | .error e :: rest => .error e { w with fetches := rest, effects }
  | .ok r :: rest => .ok r { w with fetches := rest, effects }

end NightWatcher.Weather
