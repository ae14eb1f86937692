import SmartHome.Lib.EventRun
import SmartHome.Lib.RouteStack
import SmartHome.Lib.FormPage
import SmartHome.Lib.DartValue
import SmartHome.Lib.Document
import SmartHome.Lib.DocumentList
import SmartHome.Lib.Outstanding
import SmartHome.Lib.Parts
import SmartHome.Lib.Agenda
import SmartHome.Lib.LinkedMap
import SmartHome.Lib.AsyncWidget
import SmartHome.Lib.Dialogue
import SmartHome.Lib.Utf16
import SmartHome.Lib.RegExp
import SmartHome.Lib.Uri
import SmartHome.Lib.QueryString
import SmartHome.Lib.QueryParameters
import SmartHome.Lib.Json
import SmartHome.Lib.DartJson
import SmartHome.Lib.Cascade
import SmartHome.Firestore
import SmartHome.Profile.UserProfile
import SmartHome.Profile.FirestoreService
import SmartHome.Profile.Provider
import SmartHome.Profile.SettingsForm
import SmartHome.Profile.Handlers
import SmartHome.Profile.EarlyEdits
import SmartHome.Profile.BirthDate
import SmartHome.Profile.Saves
import SmartHome.Profile.HeaderAgreement
import SmartHome.Profile.SettingsVisits
import SmartHome.Profile.DisplayNames
import SmartHome.Profile.QrCode
import SmartHome.Auth.EmailValidators
import SmartHome.Auth.AuthForms
import SmartHome.Settings.Language
import SmartHome.Settings.Handlers
import SmartHome.Navigation.Navigator
import SmartHome.Navigation.HomeCreated
import SmartHome.Navigation.SignOut
import SmartHome.Navigation.LoginCycles
import SmartHome.Map.LatLng
import SmartHome.Map.MapComponent
import SmartHome.Map.Handlers
import SmartHome.Utils.AddressUtils
import SmartHome.Utils.Removed
import SmartHome.Utils.CleanedNames
import SmartHome.Utils.CleanedParts
import SmartHome.Utils.NeatAddresses
import SmartHome.Utils.LocationDevice
import SmartHome.Components.AirThai
import SmartHome.Components.AirTile
import SmartHome.Components.TextArea
import SmartHome.Components.Truncation
import SmartHome.Components.GoogleApiService
import SmartHome.Utils.Requests
import SmartHome.Address.ThaiAddress
import SmartHome.Address.Loading
import SmartHome.Address.Grouping
import SmartHome.Components.Disposal
import SmartHome.Home.FormCreate
import SmartHome.Address.Picking
import SmartHome.Address.PickerSafety
import SmartHome.Address.Gazetteer
import SmartHome.Address.PlacePicker
import SmartHome.Address.ShownNames
import SmartHome.Address.MissingTables
import SmartHome.Home.AddressPath
import SmartHome.Home.Records
import SmartHome.Home.HomeList
import SmartHome.Home.Ownership
import SmartHome.Home.Lifecycle
import SmartHome.Home.Submission
import SmartHome.Home.Handlers
import SmartHome.Components.FormDisposal
import SmartHome.Controllers
import SmartHome.Home.StoredHomes
import SmartHome.Visits
