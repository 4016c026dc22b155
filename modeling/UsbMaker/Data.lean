import Mathlib.Data.List.Basic

/-!
# The data types shared by the parts of the program

* `Url`: a `QUrl`, as far as the program looks into it.
* `DeviceGuy`: a storage device, `device.h`.
* `GondarImage`, `GondarSite`: a downloadable image and a site of an account, `gondarimage.h`
  and `gondarsite.cc`.

The integer fields are natural numbers or integers; where the width of a machine integer matters,
the function that computes with it reduces explicitly.
-/

namespace UsbMaker

/-- A `QUrl`: the text before the path, and the segments of the path. -/
structure Url where
  base : String
  path : List String
  deriving DecidableEq, Repr

/-- `QUrl::fileName`: the last segment of the path. -/
def Url.fileName (url : Url) : String := url.path.getLastD ""

/-- A storage device as `GetDevices` reports it. -/
structure DeviceGuy where
  deviceNum : Nat
  name : String
  numBytes : Nat
  deriving DecidableEq, Repr

/-- `gondar::getGigabyte`. -/
def getGigabyte : Nat := 1073741824

/-- An image offered for download. -/
structure GondarImage where
  product : String
  imageName : String
  url : Url
  deriving DecidableEq, Repr

/-- A site of an account with the images found for it so far. -/
structure GondarSite where
  siteId : Int
  siteName : String
  imageList : List GondarImage := []
  deriving DecidableEq, Repr

/-- `GondarSite::addImage`. -/
def GondarSite.addImage (site : GondarSite) (image : GondarImage) : GondarSite :=
  { site with imageList := site.imageList ++ [image] }

end UsbMaker
