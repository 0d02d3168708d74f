/-!
# Chinese by readings in Latin script

The rules of one of the orders of Chinese.

* `pinyinRules` : the rules, without those of tone marks.
-/

namespace StyleHost

namespace Collation

/-- Ideographs by their readings in Latin script. -/
def pinyinRules : String :=
"[reorder Hani]&[last regular]<*吖阿锕錒啊哎哀唉埃娭挨溾銰锿噯鎄啀捱皑凒溰嘊敱敳皚癌騃毐昹娾欸嗳矮蔼躷濭藹譪霭靄艾伌爱砹硋隘嗌塧嫒愛碍叆暧瑷閡僾壒嬡懓薆鴱懝曖璦餲皧瞹
馤礙譺鑀鱫靉安侒垵峖桉氨庵菴谙媕萻葊痷腤鹌蓭誝𩽾鞌鞍盦諳馣盫鵪韽鶕玵啽雸儑俺唵埯铵隌揞罯銨犴岸按洝荌案胺豻堓婩晻暗貋錌闇鮟黯肮骯卬岇昂昻枊盎醠凹柪梎軪爊敖厫隞嗷嗸嶅廒滶獓蔜遨摮熬獒璈磝翱聱螯翶謷謸
翺鳌鏖鰲鷔鼇抝芺袄镺媪媼襖岙扷坳垇岰拗傲奡奥奧嫯慠骜隩墺嶴懊澳薁擙鏊驁丷八仈巴叭扒朳玐夿岜芭峇柭疤哵巼捌笆粑羓蚆釛釟豝鲃魞叐犮抜坺妭拔茇炦癹胈菝詙跋軷颰魃墢鼥把钯鈀靶坝弝爸垻罢耙跁鲅罷鮊覇矲霸壩灞
欛吧紦挀掰白百佰柏栢捭瓸竡粨絔摆擺襬庍拝败拜敗猈稗粺薭贁韛扳攽班般颁斑搬斒頒瘢鳻螌褩癍辬𨭉阪坂岅昄板版瓪钣粄舨鈑蝂魬闆办半伴扮坢姅怑拌绊柈秚湴絆鉡靽辦瓣螁邦垹帮𠳐捠梆浜邫幇幚縍幫鞤绑綁榜牓膀髈玤蚌
傍棒谤塝搒稖蒡蜯磅镑艕謗鎊勹包佨孢苞枹胞笣煲龅蕔褒襃闁齙窇嫑雹薄宝怉饱保鸨宲珤堡堢媬葆寚飹飽褓駂鳵緥鴇賲藵寳寶靌勽报抱豹趵铇菢蚫袌報鉋鲍靤骲暴髱虣鮑儤曓爆忁鑤卑杯盃桮悲揹椑碑鹎藣鵯北鉳贝孛𬇙狈貝邶
备昁牬苝背郥钡俻倍悖狽被偝偹梖珼鄁備僃惫棓焙琲軰辈愂碚禙蓓蛽犕褙誖鞁骳輩鋇憊糒鞴鐾呗唄奔泍贲栟犇锛錛本苯奙畚翉楍坋坌倴捹桳渀笨逩撪獖輽伻祊奟崩绷絣閍傰嵭痭嘣綳甭埄埲菶琣琫繃鞛泵迸逬塴甏镚蹦鏰揼屄偪
毴逼楅榌豍螕鵖鲾鎞鰏荸鼻嬶匕比夶朼佊吡妣沘疕芘彼柀秕俾笔粃舭啚筆鄙箄聛貏币必毕闭佖坒庇诐邲咇妼怭怶枈畀畁苾哔柲毖珌疪荜陛毙狴畢笓粊袐铋婢庳敝梐萆萞閇閉堛弻弼愊愎湢皕禆筚詖貱賁赑嗶彃滗滭煏痹痺睤腷蓖
蓽蜌裨跸鉍閟飶幣弊熚獙碧箅箆綼蔽鄪馝幤潷獘罼襅駜髲壁嬖廦篦篳縪薜觱避鮅斃濞臂蹕髀奰璧鄨鏎饆繴襞襣鞸韠魓躃躄驆贔鐴鷝鷩鼊边辺砭笾揙猵编萹煸牑甂箯編蝙獱邉鍽鳊邊鞭鯾鯿籩贬扁窆匾貶惼碥稨褊糄鴘藊卞弁忭抃
汳汴苄𨚕釆变峅玣便変昪覍徧缏遍閞辡緶艑辧辨辩辫辮辯變炞灬杓标飑骉髟淲彪猋颩墂幖滮颮骠標熛膘瘭磦镖飙飚儦颷瀌藨謤爂臕贆鏢穮镳飆飇飈飊驃鑣驫表婊脿裱諘褾錶檦俵摽鳔鰾憋蟞鳖鱉鼈虌龞癿別别莂蛂徶襒蹩瘪癟彆
汃邠玢砏宾彬梹傧斌椕滨缤槟瑸豩賓賔镔儐濒濱濵虨豳檳璸瀕霦繽鑌顮摈殡膑髩擯鬂殯臏髌鬓髕鬢氞冫仌仒氷冰兵掤鋲丙邴陃怲抦秉苪昞昺柄炳饼眪窉蛃棅禀稟鈵鉼鞆餅餠鞞并並併幷垪庰倂栤病竝偋傡寎摒誁鮩靐癶帗拨波癷
玻剝剥哱盋砵袚钵饽紴缽菠袰溊碆鉢𬭛僠嶓撥播蕃餑鮁蹳驋鱍仢伯犻肑驳帛狛瓝苩侼勃胉郣亳挬浡瓟秡袯钹铂淿脖舶袹博渤葧鹁愽搏猼鈸鉑馎鲌僰煿牔箔膊艊蔔馛駁踣鋍镈馞駮襏豰嚗懪礡簙鎛餺鵓犦髆髉欂襮礴鑮跛箥簸孹擘
檗糪譒蘗卜啵萡峬庯逋钸晡鈽誧鳪轐醭卟补哺捕喸補𬷕鵏鸔不布佈吥步咘怖抪歨歩柨钚勏埔埗悑捗荹部埠瓿鈈廍蔀踄郶餔篰餢簿嚓擦攃礤礸遪囃偲猜才材财財裁纔毝采倸啋婇寀彩採睬跴綵踩埰菜棌蔡縩参參叄飡骖叅喰湌傪嬠
餐爘驂残蚕惭殘慚蝅慙蠶蠺惨朁䅟慘憯穇篸黪黲灿粲摻儏澯薒燦璨謲仓仺伧沧苍鸧倉舱傖嵢滄獊蒼濸艙螥鶬藏欌鑶賶撡操糙曺曹嘈嶆漕蓸槽𥕢褿艚螬鏪艸草愺懆騲肏鄵襙艹冊册侧厕恻拺测荝敇畟側厠笧粣萗廁惻測策萴筞筴蓛
墄箣憡簎嵾岑涔笒曽噌层曾層嶒竲驓蹭叉扠杈肞臿挿偛嗏插揷馇銟锸艖疀鍤餷秅垞查茬茶嵖搽猹靫槎詧察碴𥻗檫衩蹅镲鑔奼汊岔侘诧姹差紁詫芆拆钗釵犲侪柴豺祡喍儕齜茝虿袃訍瘥蠆囆辿觇梴掺搀覘裧鉆鋓幨襜攙婵谗孱棎湹
禅馋煘缠僝獑蝉誗鋋儃嬋廛潹潺緾澶磛禪毚鄽镡瀍蟬儳劖蟾酁嚵壥巉瀺欃纏纒躔镵艬讒鑱饞产旵丳斺浐剗谄啴產産铲阐𬊤蒇剷嵼摌滻嘽幝蕆諂閳骣燀簅冁繟譂辴鏟闡囅灛讇忏刬硟摲懴颤懺羼韂顫伥昌倀娼淐猖菖阊晿椙琩裮锠
錩閶鲳鯧鼚仧仩兏肠苌镸尝偿常徜瓺萇甞腸嘗塲嫦瑺膓鋿償嚐鲿鏛鱨厂场昶𬬮惝場敞僘厰廠氅鋹怅畅倡鬯唱悵焻瑒暢畼誯韔蟐抄弨怊欩钞訬焯超鈔勦牊晁巢巣朝鄛鼌漅嘲樔潮窲罺轈鼂謿吵炒眧焣煼麨巐仦仯耖觘车伡車俥砗唓
莗硨蛼扯偖撦屮彻坼迠烢聅掣硩頙徹撤澈㬚勶瞮爡抻郴捵𬘭琛嗔綝瞋諃賝縝謓尘臣忱沉辰陈迧茞宸莀莐陳敐晨梣訦谌軙愖揨鈂煁蔯塵樄瘎霃螴諶薼麎曟鷐趻硶碜墋夦磣踸鍖贂醦衬疢龀趁趂榇齓齔儭嚫谶櫬襯讖阷泟柽爯棦浾琤
称偁蛏湞赪僜憆摚稱靗撐撑緽橕瞠赬頳檉竀罉穪蟶鏳鏿鐣饓丞成朾呈承枨诚郕乗城娍宬峸洆荿乘埕挰晟珹脀掁珵碀窚脭铖堘惩棖椉程筬絾裎塍塖溗誠畻酲鋮憕澂澄橙檙鯎瀓懲騬侱徎悜逞骋庱睈騁秤牚吃妛侙哧彨𫄨胵蚩鸱瓻眵
笞粚喫訵嗤媸摛痴絺噄瞝誺螭鴟鵄癡魑齝攡彲黐弛池驰迟岻茌持竾荎歭蚳赿筂貾遅趍遟馳箎墀漦踟遲篪謘尺叺呎肔侈卶齿垑胣恥耻蚇袳豉欼歯袲裭鉹褫齒彳叱斥杘灻赤饬抶勅恜炽勑翄翅敕烾痓啻湁硳飭傺痸腟跮鉓雴憏瘈翤遫
銐慗瘛翨熾懘趩饎鶒鷘麶充冲忡沖㳘茺浺珫翀舂嘃摏徸憃憧衝罿艟蹖虫崇崈隀漴褈緟蝩蟲爞宠寵铳揰銃抽搊瘳篘犨犫仇怞俦帱栦惆紬绸菗椆畴絒愁皗稠筹裯酧酬綢踌儔雔嚋嬦幬懤薵燽雠疇籌躊醻讎讐丑丒吜杻杽侴偢瞅醜矁魗
臭臰遚殠出岀初䢺䝙摴樗貙齣刍除芻厨滁蒢豠锄媰耡蒭蜍趎鉏雏犓蕏廚篨鋤橱幮櫉藸蟵躇雛櫥蹰鶵躕処杵础椘储楮楚褚濋儲檚璴礎𬺓齭齼亍处竌怵拀绌豖欪竐俶敊畜埱珿絀處傗琡鄐搐滀蓫触踀閦儊嘼諔憷斶歜臅黜觸矗榋橻歘
揣搋膗啜膪踹巛川氚穿剶猭瑏传舡舩船遄傳椽暷篅輲舛荈喘歂僢踳汌串玔钏釧賗鶨刅疮窓窗牎摐牕瘡窻床牀噇幢闯傸摤磢闖创怆刱剏剙凔創愴吹炊龡垂倕埀陲捶菙圌搥棰腄槌锤箠錘鎚顀旾杶春萅堾媋暙椿槆瑃箺蝽橁輴櫄鰆䲠
鶞纯陙唇浱純莼淳脣湻犉滣蒓𬭚鹑漘蓴醇醕錞鯙鶉偆萶惷睶賰蠢逴踔戳辶辵娕娖婥惙涰绰腏辍酫綽趠輟龊擉磭繛歠嚽齪鑡呲疵趀偨跐縒骴髊蠀齹词珁垐柌祠茈茨瓷詞辝慈甆辞磁雌鹚糍辤飺餈嬨濨薋鴜礠辭鶿鷀此佌泚玼皉𫚖鮆
朿次伺佽刺刾庛茦栨莿絘蛓赐螆賜匆囪囱苁忩枞茐怱悤棇焧葱漗聡蓯蔥骢暰樅樬熜瑽璁緫聦聪瞛篵聰蟌鍯繱鏦騘驄从丛従婃孮徖從悰淙琮慒漎潀潨誴賨賩樷藂叢灇欉爜憁謥凑湊腠辏輳粗觕麁麄麤徂殂促猝脨媨瘄蔟誎趗噈憱踧
醋瘯簇縬蹙鼀蹴蹵顣汆撺鋑镩蹿攛躥鑹櫕巑欑穳窜殩熶篡簒竄爨崔催凗缞墔嶉慛摧榱獕槯磪縗鏙漼璀趡皠伜忰疩倅粋紣翆脃脆啐啛悴淬萃毳焠脺瘁粹綷翠膵膬濢竁襊顇臎乼邨村皴踆澊竴膥存侟拵刌忖寸吋籿搓瑳遳磋撮蹉醝虘
嵯嵳痤睉矬蒫蔖鹾鹺躦脞剉剒厝夎挫莝莡措逪斮棤锉蓌错銼錯咑哒耷荅笚嗒搭褡噠撘𨱏鎝达迏迖迚呾妲怛沓炟羍荙畗剳匒畣笪逹溚答詚達𫟼靼薘鞑燵蟽鎉躂鐽韃龖龘打大亣汏眔垯跶瘩墶繨呆呔獃懛歹逮傣代轪侢垈岱帒甙绐迨
骀带待怠柋殆玳贷帯軑埭帶紿蚮袋軚貸軩瑇廗叇曃緿鴏戴艜黛簤蹛瀻霴襶黱靆鮘丹妉单担単眈砃耼耽郸聃躭單媅殚瘅匰箪褝鄲頕儋勯擔殫甔癉襌簞聸伔刐抌𬘘玬瓭胆衴疸紞掸赕亶撢撣澸黕膽黮旦但帎沊泹狚诞柦𫢸疍啖啗弹惮
淡萏蛋啿弾氮腅蜑觛窞誕僤噉馾髧嘾彈憚憺澹禫蓞駳鴠癚嚪繵贉霮饏当珰裆铛筜當噹澢璫襠簹艡蟷鐺挡党谠𣗋擋譡黨攩灙欓讜氹凼圵宕砀垱荡档𬍡菪婸愓瓽逿嵣雼潒碭儅瞊蕩趤壋檔璗盪礑簜蘯闣刀刂叨忉朷氘舠釖鱽魛捯导岛
陦島捣祷禂搗隝嶋嶌槝導隯壔嶹擣蹈禱到倒悼盗菿椡盜道稲箌翢噵稻艔衜檤衟燾翿軇瓙纛嘚恴得淂悳惪棏锝徳德鍀地的脦扥扽灯登豋噔嬁燈璒竳簦艠覴蹬朩等戥邓凳鄧隥墱嶝瞪磴镫櫈鐙氐仾低奃彽袛啲埞羝隄堤趆䃅滴镝磾鍉
鞮廸狄籴苖迪唙敌涤荻梑笛𬱖觌靮滌馰髢嘀嫡翟蔋蔐頔敵樀篴嚁藡豴蹢鬄鏑糴覿鸐厎坘诋邸阺呧坻底弤抵拞茋柢牴砥掋菧觝詆軧聜骶鯳坔弟旳杕玓怟枤俤帝埊娣递逓偙啇梊焍珶眱祶第菂谛釱媂棣渧睇缔蒂僀𤧛禘腣遞鉪墑墬摕
碲蔕蝃遰慸甋締䗖嶳諦踶螮嗲敁掂傎厧嵮滇槇槙瘨颠蹎巅顚顛癫巓巔攧癲齻典奌点婰猠敟椣跕碘蒧蕇踮點嚸电佃甸阽坫店垫扂玷钿婝惦淀奠琔殿蜔電墊壂橂橝澱靛癜簟驔刁叼汈刟虭凋奝弴彫蛁琱貂碉鳭殦瞗雕鮉鲷簓鼦鯛鵰扚
屌弔伄吊钓窎訋调掉釣铞铫鈟竨蓧銱雿魡調瘹窵鋽藋鑃爹跌褺苵迭垤峌恎挕昳绖胅瓞眣耊戜谍喋堞𫶇幉惵揲畳絰耋臷詄趃镻叠楪殜牃牒嵽碟蜨褋艓蝶疂諜蹀鲽曡疉鰈疊氎哋眰丁仃叮帄玎疔盯钉耵虰酊釘靪奵顶頂鼎嵿鼑濎薡鐤
订忊饤矴定訂飣啶萣椗腚碇锭碠聢蝊鋌錠磸顁丟丢铥銩东冬咚岽東苳昸氡倲鸫埬娻崠崬涷笗菄𬟽徚氭蝀鮗鼕鯟鶇鶫董墥嬞懂箽蕫諌动冻侗垌姛峒恫挏栋洞胨迵凍戙胴動硐棟湩絧腖働駧霘吺唗都兜兠蔸橷篼乧阧抖枓钭陡唞蚪鈄
斗豆郖浢荳逗饾鬥梪毭脰酘痘閗窦鬦餖斣闘竇鬪鬭鬬厾剢阇嘟督醏闍毒独涜读渎椟牍犊裻読蝳獨錖凟匵嬻瀆櫝殰牘犢瓄皾騳黩讀豄贕韣髑鑟韇韥黷讟笃堵帾琽赌睹覩賭篤芏妒杜肚妬度荰秺渡𬭊靯镀螙殬鍍蠧蠹耑偳剬媏端褍鍴
短段断塅缎葮椴煅瑖腶碫锻緞毈簖鍛斷躖籪垖堆塠嵟痽磓鴭鐜頧队对兊兌兑対祋怼陮隊碓綐對憞憝濧薱懟瀩譈襨鐓譵吨惇敦蜳墩墪撴獤噸撉橔犜礅镦蹲蹾驐盹趸躉伅囤庉沌炖盾砘逇钝顿遁鈍楯頓碷遯潡燉踲多夛咄哆畓剟㙍崜
掇敠敪毲裰嚉夺铎剫敓敚喥痥鈬奪凙踱鮵鐸朵朶哚垛垜挅挆埵缍椯趓躱躲綞亸軃嚲奲刴剁陊陏饳尮柮桗堕舵惰跢跥跺飿墮嶞憜墯鵽妸妿娿婀屙痾讹吪囮迗俄娥峨峩涐莪珴訛皒睋鈋锇鹅蛾磀誐鋨頟额魤額鵝鵞譌鰪枙砈頋噁騀鵈
厄屵戹歺岋阨呃扼苊阸呝砐轭咢咹垩姶峉匎恶砨蚅饿偔卾堊悪硆谔軛鄂堨堮崿惡愕湂萼豟軶遌遏鈪𫫇廅搤搹琧腭詻僫蝁锷魥鹗𥔲蕚遻頞颚餓噩擜覨諤閼餩鍔鳄歞顎礘櫮鰐鶚讍齃鑩齶鱷诶誒奀恩蒽煾峎摁鞥儿而児侕兒陑峏洏荋
栭胹唲袻鸸粫聏輀鲕隭髵鮞鴯轜厼尒尓尔耳迩洱饵栮毦珥铒爾餌駬薾邇趰二弍弐刵咡贰貮衈貳誀鉺樲发沷発發彂醱乏伐姂垡浌疺罚茷阀栰笩傠筏瞂罰閥罸橃藅佱法砝鍅灋珐琺髪蕟髮帆忛番勫噃嬏幡憣旙旛繙翻藩轓颿籓飜鱕凡
凢凣氾匥杋柉矾籵钒舤烦舧笲棥渢煩緐墦樊橎燔璠膰薠繁襎𫔍𬸪羳蹯瀪瀿礬蘩鐇鐢蠜鷭反払仮返釩犯奿汎泛饭范贩畈訉軓婏梵盕笵販軬飯飰滼嬎範匚方邡坊汸芳枋牥钫淓蚄鈁錺鴋防妨房肪埅鲂魴鰟仿访纺昉昘瓬眆倣旊紡舫訪
髣鶭放趽堏飞妃非飛啡婓婔渄绯菲𬴂扉暃猆靟裶緋蜚霏鲱餥馡騑騛飝肥淝腓蜰蟦朏胐匪诽奜悱斐棐榧翡蕜誹篚吠芾废杮沸狒肺昲胇费俷剕厞疿陫屝萉廃費痱镄廢曊癈鼣濷櫠鯡鐨靅分吩帉纷芬昐氛哛竕衯兺紛翂兝棻訜躮酚鈖雰
朆餴饙坟妢岎汾朌枌炃肦羒蚠蚡梤棼𣸣焚蒶馚隫墳幩濆蕡魵橨燌燓豮鼢羵鼖豶轒鐼馩黂粉黺份弅奋忿秎偾愤粪僨憤瞓奮膹糞鲼瀵鱝丰风仹凨凬妦沣沨凮枫封疯盽砜風峯峰偑桻烽琒崶猦葑锋楓犎蜂瘋碸僼篈鄷鋒檒闏豐鎽鏠酆寷
灃蘴霻蠭靊飌麷冯夆捀浲逢堸溄馮摓漨綘艂讽覂唪諷凤奉甮俸湗焨煈缝赗鳯鳳鴌縫賵覅仏坲梻紑裦缶否妚缹缻殕雬鴀夫伕邞呋妋姇玞肤怤柎砆荂衭𫓧娐尃荴旉紨趺麸痡稃跗鈇筟綒鄜孵豧敷膚鳺麩糐麬麱懯乀巿弗伏凫甶佛冹刜
孚扶芙芣咈岪彿怫拂服枎泭绂绋苻茀俘垘柫氟洑炥玸畉畐祓罘茯郛韨哹垺栿浮砩莩蚨匐桴涪烰琈符笰紱紼翇艴菔虙袱幅棴絥罦葍福粰綍艀蜉辐鉘鉜颫鳧榑稪箙韍幞澓蝠髴鴔諨踾輻鮄癁襆鮲黻襥鵩鶝呒㕮抚甫乶府弣拊斧俌俛胕
郙鳬俯釜釡捬辅椨焤盙腑𫖯滏蜅腐輔嘸撨撫頫鬴簠黼阝父讣付妇负㳇附咐坿竎阜驸复峊祔訃負赴蚥袝陚偩冨副婦蚹傅媍富復秿萯蛗覄詂赋椱缚腹鲋禣複褔赙緮蕧蝜蝮賦駙嬔縛輹鮒賻鍑鍢鳆覆馥鰒酜旮嘎嘠钆尜釓噶錷尕玍尬魀
侅该郂陔垓姟峐荄晐赅畡祴絯該豥賅賌忋改絠丐乢匃匄阣杚钙𬮿盖摡溉葢鈣隑戤概槩蓋漑槪瓂甘忓芉迀攼杆玕肝坩泔矸苷乹柑竿疳酐粓亁凲尲尴筸漧鳱尶尷魐仠皯秆衦赶敢桿笴稈感澉趕橄擀簳鰔鳡鱤干旰汵盰绀倝凎淦紺詌骭
幹榦㽏檊贑赣贛灨冈罓冮刚纲肛岡㭎牨疘矼缸钢剛罡堈掆釭棡犅堽綱罁鋼鎠岗崗港杠鿍焵焹筻槓戅戆皋羔羙高皐髙臯滜槔睾膏槹橰篙糕餻櫜韟鷎鼛鷱夰杲菒稁搞缟暠槀槁稾稿镐縞藁檺藳吿告勂诰郜峼祮祰锆筶禞誥鋯戈仡圪犵
戓肐牫疙咯牱哥胳袼鸽割搁彁滒戨歌鴐鴚擱謌鴿鎶呄佮匌挌茖阁革敋格鬲愅臵葛蛒裓隔嗝塥滆觡搿槅膈閣閤獦镉鞈韐骼諽輵鮯櫊韚轕鞷騔哿舸嗰个各虼個硌铬箇鉻给給根跟哏艮亘亙茛揯搄刯庚畊浭耕菮椩焿絚赓鹒緪縆羮賡羹
鶊郠哽埂峺挭绠耿莄梗𬒔綆鲠骾鯁更堩暅工弓公厷功攻杛供糼肱宫䢼宮恭蚣躬龚匑塨幊愩觥躳熕匔碽髸觵龏龔廾巩汞拱拲栱珙輁鞏共贡羾貢莻慐勾佝沟钩袧缑鈎溝鉤緱褠篝簼鞲韝芶岣狗苟枸玽耇耉笱耈蚼豿坸构诟购垢姤茩冓
够夠訽媾彀搆詬遘雊構煹觏撀覯購估呱咕姑孤沽泒苽柧轱唂罛鸪笟菇菰蛄蓇觚軱軲辜酤鈲箍箛嫴篐橭鮕鴣鶻夃古扢汩诂谷股牯𦙶骨唃罟羖逧钴傦啒淈脵蛊蛌尳愲詁馉鹄榾毂鈷鼓鼔嘏榖皷鹘穀縎糓薣濲皼臌轂餶瀔盬瞽蠱固故凅
顾堌崓崮梏牿棝祻雇痼稒锢僱錮鲴鯝顧瓜刮胍栝鸹歄煱颪趏劀緺踻銽颳鴰騧冎叧剐剮寡卦坬诖挂啩掛罣絓罫褂詿乖掴摑拐枴柺箉夬叏怪恠关观官冠覌倌棺蒄窤関瘝癏観闗鳏關鰥觀鱞莞馆琯痯筦管輨舘錧館鳤毌丱贯泴悺惯掼涫
貫悹祼慣摜潅遦樌盥罆雚躀鏆灌爟瓘矔礶鹳罐鑵鱹鸛光灮侊炗炚炛咣垙姯洸茪桄烡珖胱𨐈僙輄銧黆广広犷廣獷臩俇逛臦撗欟归圭妫龟规邽皈茥闺帰珪胿亀硅窐袿規媯椝瑰郌嫢摫閨鲑嬀槻槼螝璝瞡膭鮭龜巂歸鬶騩瓌鬹櫷宄朹轨
庋佹匦诡陒垝姽恑攱癸軌鬼庪祪匭晷湀蛫觤詭厬簋蟡攰刽刿昋柜贵桂桧椢猤筀貴蓕跪匱劊劌嶡撌槶檜瞶禬簂櫃癐襘鳜鞼鱖鱥丨衮惃绲袞辊滚蓘滾緄蔉磙輥鲧鮌鯀棍睔睴璭謴呙咼埚郭啯堝崞聒鈛锅墎瘑嘓彉濄蝈鍋彍蟈囯囶囻国
圀國帼𬇹腘幗慖漍聝蔮膕虢馘果惈淉猓菓馃椁褁槨粿綶蜾裹輠錁餜鐹过過哈铪蛤奤咍咳嗨还孩頦骸還海胲烸塰酼醢亥妎骇害氦嗐餀駭駴饚嚡佄顸哻蚶酣頇嫨谽憨馠歛鼾邗含邯函咁肣凾虷唅圅娢浛崡晗梒涵焓琀寒嵅韩甝筨蜬澏
鋡魽韓丆厈罕浫喊蔊㘎豃鬫汉屽扞汗闬旱岾垾悍捍涆猂莟晘焊菡釬閈皔睅傼蛿颔馯撖漢蜭暵熯銲鋎憾撼翰螒頷顄駻譀雗瀚蘫鶾兯爳夯苀迒斻杭垳绗笐航蚢颃貥筕絎頏魧沆茠蒿嚆薅薧毜竓蚝毫椃嗥獆貉噑獔豪嘷獋諕儫嚎壕濠籇
蠔譹好郝号昊昦秏哠恏悎浩耗晧淏傐皓鄗滈聕號暤暭澔皜皞曍皡薃皥鎬颢灏顥鰝灝诃呵抲欱喝訶嗬蠚禾合纥何劾咊和姀河郃峆曷柇狢盇籺紇阂饸哬敆核𬌗盉盍荷啝涸渮盒秴菏萂蚵龁惒粭訸颌楁毼澕詥貈鉌阖鲄熆鹖麧頜篕翮螛
魺礉闔鞨齕覈鶡皬鑉龢佫垎贺袔隺寉焃賀嗃煂碋熇褐赫鹤穒翯壑癋謞燺爀鶮鶴靍靎鸖靏黒黑嘿潶𬭶拫痕鞎佷𬣳很狠詪恨亨哼悙涥啈脝姮恆恒桁烆珩胻鸻横橫衡鴴鵆蘅鑅堼噷叿吽呍灴轰哄訇烘軣揈渹焢硡谾薨輷嚝鍧轟仜弘妅红
吰宏汯玒纮闳宖泓玜苰垬娂洪竑紅荭虹浤紘翃耾硔紭谹𫟹鸿渱竤粠葒葓鈜𬭎閎綋翝谼潂鉷鞃魟鋐彋蕻霐黉霟鴻黌唝晎嗊讧訌閧撔澋澒銾闂鬨闀齁侯矦鄇喉帿猴葔瘊睺𬭤篌糇翭骺翵鍭餱鯸吼犼后郈厚垕後洉逅候堠豞鲎鲘鮜鱟乎
乯匢虍呼垀忽昒曶泘苸恗烀轷匫唿惚淴虖軤嘑寣滹雐幠戯歑膴謼囫抇弧狐瓳胡壶壷斛焀喖壺媩搰湖猢絗葫楜煳瑚嘝蔛鹕槲箶糊蝴衚魱縠螜醐頶觳鍸餬鵠瀫鬍鰗鶘鶦乕汻虎浒俿唬萀琥虝滸錿鯱乥互弖戶户戸冱冴芐帍护沍沪岵怙
戽昈枑怘祜笏粐婟扈瓠楛嗀綔鄠雽嫭嫮摢滬蔰槴熩鳸簄鍙嚛鹱護鳠韄頀鱯鸌花芲哗砉埖婲椛硴嘩糀誮蒊錵蘤华姡骅華釪釫铧滑猾搳撶磆蕐螖鋘譁鏵驊鷨化划夻杹枠画话崋桦婳畫嬅畵觟話劃摦樺嫿槬澅諙諣黊繣舙譮怀徊淮槐褢
踝懐褱懷瀤櫰耲蘹坏咶壊壞蘾欢犿歓鴅鵍酄嚾懽獾歡讙貛驩环郇峘洹狟荁桓𬘫萈萑寏絙雈綄羦貆鉮锾圜嬛寰澴缳阛環𤩽豲鍰镮鹮糫繯轘鐶闤鬟瓛缓㬊緩攌幻奂肒奐宦唤换浣涣烉患梙焕逭喚喛嵈愌換渙痪睆煥瑍豢漶瘓槵鲩擐澣
藧鯇鯶鰀巟肓荒衁朚塃慌皇偟凰隍黄喤堭媓崲徨惶湟葟遑黃楻煌瑝墴潢獚锽熿璜篁篊艎蝗癀磺穔諻簧蟥鍠𨱑餭鳇趪韹鐄騜鰉鱑鷬怳恍炾宺晃晄奛谎幌詤熀縨謊櫎兤㿠愰滉榥曂皝鎤皩灰灳㧑诙咴恢拻挥洃袆晖烣豗婎媈揮翚辉隓
暉楎煇禈詼幑睳褘噅撝噕翬輝麾徽隳瀈蘳鰴囘回囬佪廻廽恛洄茴迴烠蚘逥痐蛔蛕蜖鮰虺悔毀毁毇檓燬譭卉屶屷汇会讳泋哕浍绘芔荟诲恚恵烩贿彗晦硊秽喙惠湏絵缋翙阓匯彙彚會滙詯賄颒僡嘒瘣蔧誨𬤝圚寭慧憓暳槥潓蕙噦嬒徻
橞殨澮濊獩璤薈薉諱𬭬頮檅燴璯篲藱餯嚖瞺穢繢蟪櫘繪翽譓儶鏸闠孈鐬靧譿顪懳昏昬荤婚惛涽阍棔殙葷睧碈睯閽忶浑珲梡馄堚渾琿魂餛繉轋鼲诨俒倱圂掍混焝溷慁觨諢吙剨耠𬴃锪劐嚄鍃豁攉騞佸活秮秳火伙邩钬鈥漷夥沎或货
咟俰捇眓获閄掝祸貨惑旤楇湱禍蒦奯濩獲霍檴謋矆穫镬嚯瀖耯艧藿蠖嚿曤㸌臛癨矐鑊靃丌讥击刉叽饥乩刏圾机玑肌芨矶鸡枅咭姫𬯀剞唧姬屐积笄飢基𫓯喞嵆嵇敧朞犄筓缉赍勣嗘畸稘𫌀跡跻𫓹鳮僟毄箕銈嘰撃槣樭畿稽緝觭賫躸
齑墼機激璣禨積襀錤隮擊磯簊績羁賷鄿櫅耭蹟雞譏韲鶏譤鐖饑癪躋鞿鷄齎羇虀鑇覉鑙齏羈鸄覊亼亽及伋吉岌彶忣汲级即极皀亟佶郆卽叝姞急狤皍笈級堲揤疾觙偮卙庴焏谻戢棘極殛湒㴔集塉嫉愱楫蒺趌辑槉耤膌銡嶯潗濈瘠箿蕀
蕺踖鹡橶檝螏輯藉襋蹐鍓艥籍轚鏶霵鶺鷑躤雦雧几己丮妀犱泲虮挤脊掎鱾幾戟嵴麂魢撠擠穖蟣魕彐彑旡计记伎纪坖妓忌技芰际剂季哜垍峜既洎济紀茍茤荠計迹剤𪟝紒继觊記偈寂寄徛悸旣梞済祭绩塈惎臮葪蔇兾痵継蓟裚際鬾暨
漃漈禝稩穊誋跽霁鲚暩稷諅鲫冀劑曁穄薊髻嚌檕濟繋罽薺覬𬶨檵鵋齌廭懻癠穧蘎骥鯚𬶭瀱繼蘮鱀蘻霽鰶鰿鱭驥加乫夹伽夾抸佳拁泇茄迦枷毠浃珈埉家𬂩浹痂梜笳耞袈傢猳葭跏犌腵鉫嘉鉿镓糘豭貑鎵麚圿忦扴郏荚郟唊恝莢戛铗
戞蛱裌颊蛺跲餄鋏頬頰鴶鵊甲岬玾胛斚贾钾假婽徦斝椵賈鉀榎槚瘕檟价驾架嫁幏榢價稼駕戋奸尖幵坚歼间冿戔玪肩艰姦姧兼监堅惤猏笺菅菺豜湔牋犍缄葌間搛椷椾煎瑊睷碊缣蒹豣監箋樫熞緘蕑蕳鲣鳽鹣熸篯縑艱鞬餰馢麉瀐鞯
鳒殱礛覸鵳瀸鐧櫼殲鶼韀鰹囏虃鑯韉囝拣枧俭柬茧倹挸捡笕减剪梘检湕趼堿揀揃検減睑硷裥詃锏弿暕瑐筧简絸谫彅戩戬碱儉翦撿檢藆襇襉謇蹇瞼礆簡繭謭鬋鰎鹸瀽蠒鐗劗鹻籛譾襺鹼见件見𬣡建饯剑洊牮荐贱俴健剣栫涧珔舰剱
徤渐袸谏釼寋旔楗毽溅腱臶葥践賎鉴键僭榗漸蔪劍劎墹澗箭糋諓賤趝踐踺劒劔薦諫鋻鍵餞瞷磵礀螹鍳擶濺繝瀳覵鏩艦譼轞鐱鑑鑒鑬鑳橺江姜将茳浆畕豇將葁畺摪翞僵漿螀壃缰薑橿殭螿鳉疅礓疆繮韁鱂讲奖桨傋蒋奨奬蔣槳獎耩
膙講顜匞匠夅弜降洚绛弶袶絳酱勥滰嵹摾彊犟糡醤糨醬櫤謽艽芁交郊姣娇峧浇茭茮骄胶椒焦蛟跤僬嘄虠鲛嬌嶕嶣憍澆膠蕉燋膲礁穚鮫鵁䴔鹪簥蟭轇鐎驕鷦鷮臫角佼侥恔挢狡绞饺捁晈烄笅皎矫脚铰搅湫絞剿敫湬煍腳賋僥摷暞踋
鉸餃儌劋徺撟撹隦憿敽敿燞缴曒璬矯皦蟜繳譑孂纐攪灚鱎叫呌峤挍訆珓窌轿较敎教窖滘較嘂嘦斠漖酵噍嶠潐噭嬓徼獥藠趭轎醮譥皭釂鵤櫵阶疖皆接掲痎秸菨階喈喼嗟堦媘嫅揭椄湝脻街煯稭鞂擑蝔癤謯鶛卩卪孑尐节讦刦刧劫岊
昅杢刼劼杰疌衱诘㛃拮洁结迼倢桀桔桝莭訐偼婕崨捷掶袺傑媫結絜颉嵥楬楶滐睫節蜐蝍詰鉣魝截榤碣竭蓵鲒潔羯誱踕鞊幯嶻擮礍鍻鮚巀櫭蠞蠘蠽姐毑媎解觧飷檞丯介吤岕庎戒芥屆届玠界畍疥砎衸诫借悈蚧徣堺楐琾蛶骱犗誡褯
魪鎅巾今斤钅兓金釒津矜砛荕衿觔𬬱埐珒矝紟惍堻琻筋釿嶜鹶黅襟仅尽侭卺巹紧堇菫僅厪谨锦嫤廑漌盡緊蓳馑槿瑾儘錦謹饉伒劤劲妗近进枃勁浕荩晉晋浸烬赆唫琎祲進煡寖搢溍禁缙靳墐瑨僸凚歏殣璡觐噤濅縉賮嚍壗嬧濜藎燼
璶覲贐齽坕坙巠京泾经茎亰秔荆荊涇莖婛惊旌旍猄経菁晶稉腈葏睛粳經兢精聙橸鲸鵛鯨鶁鶄䴖麖鼱驚麠井丼阱刭坓宑汫汬肼剄穽颈景儆頚幜憬璄憼暻璟璥頸蟼警妌净弪径迳俓婙浄胫倞凈弳徑痉竞逕婧桱梷淨竫脛竟敬痙竧靓傹
靖境獍誩踁静靚曔镜靜瀞鏡競竸燝冂冋坰𬳶扃埛絅駉駫蘏蘔冏囧泂炅迥侰炯逈浻烱䌹煚窘颎綗僒煛熲澃燛褧丩勼纠朻牞究糺鸠糾赳阄萛啾揂揪揫鳩摎樛鬏鬮九久乆乣氿奺汣杦灸玖舏韭紤酒镹韮匛旧臼咎疚柩柾倃捄桕匓厩救就
廄廐舅僦廏㠇慦殧舊鹫匶鯦麔欍齨鷲凥抅匊居拘泃狙苴驹挶疽痀眗砠罝陱娵婮崌掬梮涺椐琚腒趄跔锔裾雎𬶋艍蜛諊踘鋦駒鮈鴡鞠鞫鶋局泦侷狊毩啹婅淗焗菊郹椈毱湨犑輂僪粷跼閰趜躹橘檋駶鵙蹫鵴巈蘜鶪䴗鼰鼳驧咀弆沮举矩
莒挙椇筥榉榘蒟龃聥舉踽擧櫸齟欅襷巨句乬巪讵姖岠怇拒洰苣邭具怐怚拠昛歫炬秬钜俱倨倶冣剧烥粔耟蚷袓埧埾惧据詎距犋跙鉅飓虡豦锯寠愳窭聚駏劇勮屦踞鮔壉懅據澽窶遽鋸屨颶貗簴躆醵懼鐻爠姢娟捐涓焆瓹脧裐鹃勬镌鎸
鵑鐫蠲卷呟帣埍捲菤锩臇錈奆劵巻倦勌桊狷绢隽淃眷鄄睊絭罥雋睠絹飬慻蔨餋獧縳羂噘撅撧屩蹻亅孒孓决刔氒诀弡抉決芵𫘝泬玦玨挗珏疦砄绝虳觉倔捔欮蚗崛掘斍桷殌覐觖訣赽趹逫傕厥焳絕絶覚趉鈌劂勪瑴谲駃嶥憰㵐熦爴獗
瘚蕝蕨鴂鴃憠橛橜爵臄镢𫔎蟨蟩屫爑譎蹶蹷鶌匷嚼矍覺鐍鐝灍爝觼彏戄攫玃鷢欔矡龣貜躩钁军君均汮姰袀軍钧莙蚐桾皲菌鈞碅皸皹覠銁銞鲪麇鍕鮶麏麕呁俊郡陖埈峻捃浚馂骏晙焌珺棞畯竣䐃葰儁箘箟蜠寯懏餕燇濬駿鵔鵕鵘攈
攟咔咖喀衉擖卡佧垰胩裃鉲开奒揩锎開鐦凯剀垲恺闿铠凱剴嘅慨蒈塏嵦愷楷輆暟锴鍇鎧闓颽忾炌炏欬烗勓愒愾鎎刊栞勘龛堪嵁戡龕冚坎侃砍莰偘埳惂欿塪歁槛輡檻顑竷轗看衎崁墈阚瞰磡闞矙忼砊粇康𡐓嫝嵻慷漮槺穅糠躿鏮𩾌
鱇扛摃亢伉匟邟囥抗犺闶炕钪鈧閌尻髛丂攷考拷洘栲烤铐犒銬鲓靠鮳鯌㸆匼苛柯牁珂科胢轲疴砢趷钶嵙棵萪軻颏嗑搕犐稞窠鈳榼薖颗樖瞌磕蝌醘顆髁礚壳揢殼翗可坷岢炣渇嵑敤渴嶱克刻勀勊客恪娔尅课堁氪骒缂愙溘锞碦緙艐
課礊騍剋肎肯肻垦恳啃豤墾錹懇齦掯裉褃劥阬吭坑妔挳硁牼硜铿硻摼誙銵鍞鏗空埪崆悾涳硿箜躻錓鵼孔倥恐控鞚𫸩抠芤眍剾彄摳瞘口劶叩扣敂冦宼寇釦窛筘滱蔲蔻瞉簆鷇扝刳矻郀枯哭桍堀崫圐跍窟骷鮬狜苦库俈绔庫秙趶焅袴
喾絝裤瘔酷廤褲嚳夸姱舿誇侉咵垮銙挎胯跨骻㧟蒯擓巜凷圦块快侩郐哙狯脍塊筷鲙儈墤鄶噲廥獪膾旝糩鱠宽寛寬臗髋鑧髖欵款歀窽窾匡劻诓邼匩哐恇洭硄筐筺誆軭忹抂狂狅诳軖軠𫛭誑鵟夼儣懭卝邝圹纩况旷岲況矿昿贶框眖砿
眶絋絖貺軦鉱鋛鄺壙黋懬曠爌矌礦穬纊鑛亏刲岿悝盔窥聧窺虧顝闚巋蘬奎晆逵鄈頄馗喹揆葵骙戣暌楏楑魁睽蝰頯櫆藈鍨鍷騤夔蘷巙虁犪躨𫠆傀煃跬頍蹞尯匮欳喟媿愦愧溃腃蒉馈瞆嘳嬇憒潰篑聩聭蕢樻謉餽簣聵籄鐀饋鑎坤昆堃
堒婫崐崑晜猑菎裈焜琨髠裩貇锟髡鹍潉蜫褌髨熴瑻醌錕鲲騉鯤鵾鶤悃捆阃壸梱祵硱稇裍壼稛綑閫閸困涃睏尡扩拡括挄桰筈萿葀蛞阔廓頢髺擴濶闊鞟韕懖霩鞹鬠垃拉柆翋菈搚邋旯砬揦磖嚹喇藞剌溂腊揧楋瘌蜡蝋辢辣蝲臈𬶟攋爉
臘鬎瓎镴鯻蠟鑞啦鞡来來俫倈崃徕涞莱郲婡崍庲徠梾淶猍萊逨棶琜筙铼箂錸騋鯠鶆麳唻赉睐睞赖賚濑賴頼顂癞鵣瀨瀬籁藾櫴癩襰籟兰岚拦栏婪惏嵐葻阑蓝𬒗谰厱澜褴儖斓篮懢燣燷藍襕镧闌璼襤譋幱攔瀾灆籃繿蘭斕欄礷襴囒灡
籣欗讕躝襽钄韊览浨揽缆榄漤罱醂壈懒覧擥嬾懶孄覽孏攬灠囕欖爦顲纜烂滥燗嚂濫爁爛瓓爤鑭糷啷勆郎郞欴狼嫏廊斏桹琅蓈榔瑯硠稂锒筤艆蜋郒螂躴鋃鎯駺朗朖烺塱蓢樃誏㮾朤埌崀浪莨阆㫰蒗閬唥捞粩撈労劳牢窂哰唠𫭼崂浶
勞痨铹僗嘮嶗憥朥癆磱簩蟧醪鐒顟髝耂老佬咾姥恅狫荖栳珯硓铑蛯銠鮱轑涝烙嗠耢酪嫪憦澇躼橯耮軂仂阞乐叻忇扐氻艻玏泐竻砳楽韷樂簕鳓鰳了饹餎勒雷嫘缧蔂畾擂檑縲礌镭櫑瓃羸礧纍罍蘲鐳轠儽壨鑘靁虆鱩欙纝鼺厽耒诔垒
塁絫腂傫誄樏磊蕌磥蕾儡壘癗藟櫐矋礨灅蠝蘽讄鑸鸓肋泪洡类涙淚累酹銇頛頪錑攂颣類纇蘱禷嘞崚塄棱楞碐稜輘薐冷倰堎愣睖踜哩刕杝厘剓狸离荲骊悡梨梩梸犁琍菞喱棃犂鹂剺漓睝筣缡艃蓠蜊嫠孷樆璃盠竰貍糎蔾褵鋫鲡黎篱
縭罹錅蟍謧醨嚟藜邌離鯏斄㰀瓈鏫鯬鵹黧囄灕蘺蠡蠫孋廲劙鑗穲籬纚驪鱺鸝礼李里俚峢娌峲浬逦理裡锂粴裏豊鋰鲤兣澧禮鯉蟸醴鳢邐鱧欚力历厉屴立吏朸丽利励呖坜𫵷沥苈例岦戾枥沴疠苙隶俐俪栃栎𬍛疬砅茘荔赲轹郦唎娳悧
栗栛涖猁珕砺砾秝莅莉唳婯悷笠粒粝脷蚸蛎傈凓厤棙痢蛠詈跞雳厯塛慄搮溧蒚蒞鉝鳨厲暦歴瑮綟蜧蝷勵曆歷篥隷鴗巁檪濿癘磿隸鬁儮曞櫔爄犡禲蠇鎘嚦壢攊櫟瀝瓅礪藶麗櫪爏瓑皪盭礫糲蠣儷癧礰酈鷅麜囇攦觻躒轢欐讈轣攭瓥
靂鱱鱳靋俩倆奁连帘怜涟莲連梿联裢亷嗹廉慩溓漣蓮匲奩槤熑覝劆匳噒嫾憐磏聨聫褳鲢濂濓縺翴聮薕螊櫣燫聯臁謰蹥鎌镰簾蠊鬑鐮鰱籢籨敛琏脸裣摙璉蔹嬚斂臉鄻襝羷蘝蘞练炼恋浰殓僆堜媡湅萰链楝煉瑓潋練澰錬殮鍊𬶠鏈瀲
鰊戀纞良俍凉梁涼𫟅椋辌粮粱墚綡樑輬糧両两兩唡𬜯啢掚脼裲緉蜽魉魎亮哴悢谅辆喨晾湸量輌踉諒輛鍄煷撩蹽辽疗聊僚寥嵺憀漻膋嘹嫽寮嶚嶛敹潦獠缭遼暸橑燎璙膫療竂鹩屪廫簝繚蟟豂賿蹘爎鐐髎藔飉鷯叾钌釕鄝蓼憭曢镽爒
尥尦炓料尞𪤗廖撂窷瞭镣毟咧挘列劣冽劽姴峛挒洌茢迾哷埒埓栵浖烈烮捩猎猟脟蛚裂煭睙聗趔巤颲儠鮤鴷䴕擸獵犣躐鬛𫚭鬣鱲拎厸邻林临冧啉崊淋晽琳粦痳碄箖粼鄰隣嶙潾獜遴𬴊斴暽燐璘辚霖瞵磷臨𬭸繗翷麐轔壣瀶鏻鳞驎鱗
麟菻亃凛凜撛廩廪懍懔澟檁檩癛癝吝恡悋赁焛賃僯蔺橉甐膦閵疄藺蹸躏躙躪轥〇伶刢灵囹坽夌姈岺彾泠狑苓昤朎柃玲瓴凌皊砱秢竛铃陵鸰婈㥄掕棂淩琌笭紷绫羚翎聆舲菱蛉衑祾詅跉軨蓤裬鈴閝零龄綾蔆霊駖澪蕶錂霗魿鲮鴒鹷
燯霛霝齢酃鯪孁蘦齡櫺醽靈欞爧麢龗阾岭袊领領嶺令另呤炩瀮溜熘蹓刘沠畄浏流留旈琉畱硫裗媹嵧旒蒥蓅馏骝榴瑠飗劉瑬瘤磂镏駠鹠橊璢疁镠癅蟉駵嚠懰瀏藰鎏鎦麍鏐飀鐂騮飅鰡鶹驑柳栁桞珋桺绺锍綹熮罶鋶橮嬼羀六畂翏塯
廇遛澑磟鹨霤餾雡飂鬸鷚囖龙屸咙泷茏昽栊珑胧眬砻竜笼聋隆湰滝嶐槞漋蕯癃窿篭龍嚨巃巄瀧蘢鏧霳曨朧櫳爖瓏矓礱礲襱龒籠聾蠪蠬豅躘鑨靇驡鸗陇垄垅拢𬕂篢儱隴壟壠攏竉龓哢梇徿贚䁖瞜剅娄偻婁喽𪣻溇蒌僂楼嘍廔慺漊蔞
遱樓熡耧蝼耬艛螻謱軁髅鞻髏嵝搂塿嶁摟甊篓簍陋屚漏瘘镂瘺瘻鏤噜撸謢卢庐芦垆枦泸炉栌胪轳舮𬬻鸬玈舻颅鈩鲈魲盧嚧壚廬攎瀘獹璷蘆曥櫨爐瓐臚矑籚纑罏艫蠦轤鑪顱髗鱸鸕黸卤虏掳鹵硵鲁虜塷滷蓾樐澛魯擄橹磠镥嚕擼瀂
櫓氌艣鏀艪鐪鑥圥甪陆侓坴彔录峍勎赂辂陸娽淕淥渌硉菉逯𫘧鹿椂琭禄祿僇剹勠盝睩碌稑賂路輅塶廘摝漉箓粶蔍戮樚熝膔觮趢踛辘醁潞穋蕗錄録錴璐簏螰簶蹗轆騄鹭簬簵鏕鯥鵦鵱麓鏴露騼籙虂鷺氇驴闾榈𦝼閭馿氀膢櫚藘鷜驢
吕呂侣郘侶挔捛捋旅梠焒祣稆铝屡絽缕屢膂褛鋁履膐褸儢穞縷穭寽垏律虑率绿嵂氯葎滤綠緑慮箻膟勴繂濾櫖爈鑢娈孪峦挛栾鸾脔滦銮鵉圝奱孌孿巒攣曫欒灓羉臠圞灤虊鑾癴癵鸞卵乱釠亂掠略畧䂮锊稤圙鋝鋢擽抡掄仑伦囵沦纶
侖轮𬬭倫陯圇婨崘崙惀淪菕棆腀綸蜦踚輪磮錀鯩𫭢埨碖稐耣论溣論啰頱囉罖罗猡脶萝逻椤腡覙锣箩骡镙螺羅覶鏍儸覼騾攞玀蘿邏欏驘鸁籮鑼饠剆倮蓏裸躶瘰蠃臝曪癳泺峈洛络荦骆洜珞硦笿絡落摞漯犖雒駱鮥鴼鵅濼纙呣妈孖媽
嬤麻痲蔴犘蟆蟇马犸玛码蚂馬溤遤瑪碼螞鎷鰢鷌杩祃閁骂傌獁睰嘜榪禡罵駡礣鬕亇吗嗎嘛嫲埋薶霾买荬買嘪蕒鷶劢迈佅売麦卖脉唛脈麥衇鿏勱賣邁霡霢嫚颟姏悗蛮僈慲馒樠瞒瞞鞔謾饅鳗顢鬗鬘鰻蠻屘満睌满滿螨襔蟎鏋矕𬜬曼
谩鄤墁幔慢摱漫獌缦蔄蔓槾熳澷镘縵鏝蘰牤邙吂忙汒芒尨杗杧氓盲厖恾笀茫哤娏庬浝狵牻硭釯铓痝蛖鋩駹莽莾硥茻壾漭蟒蠎猫貓毛矛枆牦茅茆旄罞兞渵軞酕堥锚髦氂犛蝥髳錨蟊鶜冇卯夘乮戼峁泖昴铆笷蓩鉚冃皃芼冐茂冒柕眊
贸耄袤覒媢帽萺貿鄚愗暓楙毷瑁瞀貌鄮蝐懋嚒么麼濹嚜癦呅坆沒没枚玫苺栂眉娒脄莓梅珻脢郿堳媒嵋湄湈猸睂葿楣楳煤瑂禖腜塺槑酶镅鹛鋂霉穈徾鎇矀攗蘪鶥黴毎每凂美挴浼媄嵄渼媺镁嬍燘躾鎂黣妹抺沬旀昧祙袂眛媚寐痗跊
鬽煝睸韎魅篃蝞椚门扪玧钔門閅捫菛璊𫞩鍆虋呇闷焖悶暪燜懑懣们們擝甿虻冡莔𫑡萌溕盟蒙甍儚橗瞢蕄蝱鄳鄸㠓幪懞濛曚朦檬氋矇礞鯍鹲艨蘉矒霿靀饛顭鼆鸏勐猛瓾锰艋蜢懜獴錳懵蠓鯭孟梦夢夣霥掹咪眯瞇冞弥祢迷袮猕谜蒾
詸謎醚彌擟糜縻麊麋禰靡瀰獼麛镾戂攠瓕蘼爢醾醿鸍釄米芈侎沵羋弭洣敉眫粎脒渳葞蔝銤濔孊灖冖糸汨沕宓泌觅峚祕宻秘密淧覓覔幂谧塓幎覛嘧榓滵漞熐蔤蜜鼏冪樒幦濗藌謐櫁簚羃宀芇杣眠婂绵媔棉綿緜臱蝒嬵檰櫋矈矊矏丏
汅免沔勉娩偭冕勔渑喕愐湎缅葂絻腼黽緬𩾃澠鮸靣眄面糆麪麫麺麵喵苗媌描瞄鹋嫹緢鶓鱙杪眇秒淼渺缈篎緲藐邈妙庙玅竗庿廟乜吀咩哶孭灭烕覕搣滅蔑薎鴓幭懱篾櫗蠛衊鑖鱴民姄岷忞怋旻旼苠珉盿砇罠崏捪琘琝缗瑉痻鈱緍緡
錉鴖鍲皿冺刡闵抿泯黾勄敃闽悯敏笢笽惽湣閔愍敯暋閩僶慜憫潣簢鳘蠠鰵垊名明鸣洺眀茗冥朙眳铭鄍嫇溟猽蓂暝榠銘鳴瞑螟覭佲姳凕慏酩命椧詺掵谬謬摸庅尛谟嫫馍摹模膜麽摩魹橅磨糢嬷謨謩嚤擵藦饃嚩嚰蘑髍魔劘饝抹懡末
劰圽妺帓歾歿殁沫茉陌帞昩枺唜皌眜眿砞秣莈莫眽粖絈湐蛨貃嗼塻寞漠獏蓦貊暯銆靺嫼黙瘼瞐瞙镆魩墨默瀎𬙊貘蟔鏌爅驀礳纆耱怽麿哞牟侔劺恈洠眸谋蛑缪踎鉾謀瞴繆鍪鴾麰某毪氁墲母亩牡坶姆拇峔牳畆畒胟畝畞砪𬭁畮𧿹鉧
踇木仫朰目凩沐狇炑牧苜毣莯蚞钼募雮墓幕幙慔楘睦鉬慕暮艒霂穆縸鞪拏拿挐嗱镎鎿乸哪雫那吶呐妠纳肭娜衲钠納袦捺笝𦰡豽軜貀鈉蒳靹魶腉熋摨孻乃奶艿氖疓妳廼迺倷釢嬭佴奈柰耏耐萘渿鼐褦螚錼囡男抩枏侽南柟娚畘莮难
喃萳遖暔楠諵難赧揇湳煵腩蝻戁婻囔乪嚢譨囊蠰鬞馕欜饢擃曩攮灢儾齉孬呶怓挠峱硇铙猱蛲詉碙撓嶩憹蟯夒譊鐃巎垴恼悩脑匘脳堖惱嫐瑙腦碯獶獿闹淖閙鬧臑疒讷抐眲訥呢娞馁脮腇餒鮾鯘內内氝錗恁嫩嫰能嗯妮尼伲坭怩泥籾
倪屔秜郳铌埿婗淣猊蚭棿跜𫐐腝聣蜺觬貎輗霓鲵𫠜鯢麑齯臡伱你拟抳狔苨柅旎晲孴鈮馜儗儞隬擬薿檷聻屰氼迡昵胒逆匿眤𨺙堄惄嫟愵溺睨腻暱縌誽膩嬺拈蔫年秊哖秥鲇鮎鲶鵇黏鯰涊捻淰焾跈辇撚撵碾輦簐蹍攆蹨躎卄廿念姩唸
埝艌娘嬢孃酿醸釀鸟茑袅鳥嫋裊蔦樢嬝褭嬲尿脲捏揑苶帇圼枿陧涅痆聂臬啮惗菍隉喦敜湼嗫嵲𫔶踂噛摰槷踗踙镊镍嶭篞臲錜颞蹑嚙聶鎳闑孼孽櫱籋蘖囁齧巕糱糵蠥鑈囓讘躡鑷顳钀囜您拰脌宁咛拧狞苧柠聍寍寕甯寗寜寧儜凝嚀
嬣擰獰薴檸聹鑏鬡鸋橣矃佞侫泞倿澝濘妞牛牜汼忸扭狃纽炄钮紐莥鈕靵农侬哝浓脓秾農𬪩儂辳噥濃蕽檂燶禯膿穠襛醲欁繷弄挊挵癑齈羺啂槈耨獳檽鎒鐞譳奴孥驽笯駑伮努弩砮胬怒傉搙女钕籹釹沑衂恧朒衄奻渜暖煖煗餪疟虐硸
瘧黁郍挪梛傩儺橠诺喏掿逽愞搦锘搻榒稬諾蹃糑懦懧糥穤糯喔噢哦讴𫭟欧殴瓯鸥筽塸漚歐毆熰甌膒鴎櫙藲謳鏂鷗齵𠙶吘呕𬉼偶腢嘔耦蕅藕怄沤慪妑皅趴舥啪葩杷爬掱琶筢潖帊帕怕袙拍俳徘排猅棑牌輫簰簲犤廹哌派渒湃蒎鎃眅
畨萠潘攀爿洀盘跘媻幋蒰搫槃盤磐縏磻蹒瀊蟠蹣鎜鞶冸判沜拚泮炍叛牉盼畔聁袢詊溿頖鋬鵥襻鑻乓沗胮雱滂膖霶厐彷庞逄旁舽嫎徬螃鳑龎龐嗙耪覫炐肨胖抛拋脬萢刨咆垉庖狍炰爮袍匏軳鞄褜麃麅跑奅泡炮疱皰砲麭礟礮呸怌肧
柸胚衃醅阫陪培毰赔锫裴裵賠駍俖伂沛佩帔姵斾旆浿珮配蓜辔馷嶏霈轡喷噴歕瓫盆湓葐呠翸喯匉怦抨恲砰梈烹硑軯閛漰嘭磞芃朋挷竼倗莑堋弸淜彭棚椖塳硼稝蓬鹏槰樥熢憉澎輣篣篷膨錋韸髼蟚蟛鬅纄蘕韼鵬騯鬔鑝捧淎皏剻掽
椪碰踫丕伓伾批纰邳坯披抷炋狉𬳵砒悂秛秠紕旇翍耚豾鈚鈹鉟銔劈磇駓髬噼錃錍魾鮍憵礔礕霹皮阰陂岯枇毞狓肶毗毘疲蚍郫铍陴啤埤崥蚽蚾豼焷琵脾腗鲏罴膍蜱魮壀篺螷貔鵧羆朇鼙蠯匹庀疋仳圮苉脴痞銢諀鴄擗噽癖嚭屁淠揊
釽媲嫓睥辟潎稫僻澼嚊甓疈譬闢鷿鸊䴙囨偏媥犏篇翩鍂鶣骈胼㛹腁楄楩賆跰諚骿蹁駢騈覑谝𡎚貵諞片骗魸騗騙剽彯慓缥飘旚翲螵犥飃飄魒嫖瓢薸闝殍瞟篻縹醥皫顠票僄勡嘌徱漂蔈氕撇撆暼瞥丿苤𬭯鐅嫳姘拼礗穦馪驞玭贫娦貧
琕嫔频𬞟頻嬪薲嚬矉蠙颦顰品榀牝汖聘乒甹俜娉涄砯聠艵竮頩平评凭呯坪岼泙苹郱屏帡枰洴玶胓荓瓶屛帲萍蚲塀幈焩甁缾蓱蛢評軿鲆凴慿箳輧憑鮃檘簈蘋钋坡岥泊泼颇溌酦鉕䥽頗潑鏺婆嘙蔢鄱皤謈櫇叵尀钷笸駊岶迫敀昢洦珀
烞破砶釙粕蒪魄醗桲剖娝抔抙捊掊裒箁錇咅哣婄犃仆攴攵扑炇陠噗撲潽擈鯆圤匍莆脯菩菐葡蒱蒲僕酺墣獛璞濮瞨穙镤贌纀鏷朴圃浦烳普圑溥暜谱諩樸氆檏镨譜蹼鐠铺舖舗鋪瀑曝巬巭七迉沏妻柒倛凄栖桤郪娸悽戚捿桼淒萋攲期
棲欹欺紪蛣褄僛嘁慽榿漆緀慼諆諿霋蹊魌鏚鶈亓祁𨙸齐圻岐岓忯芪亝其奇斉歧祇祈肵𬨂俟疧竒剘斊旂耆脐蚑蚔蚚颀埼崎帺掑淇猉畦萁萕跂軝釮骐骑嵜棊棋琦琪祺䓫蛴愭碁碕褀锜頎鬿旗粸綥綦綨蜝蜞齊璂禥蕲踑螧錡鲯懠濝藄檱
櫀簱臍騎騏鳍蘄鯕鵸鶀麒籏纃艩蠐鬐騹鰭玂麡乞邔企屺岂芑启杞玘盀唘豈起啓啔婍啟绮晵棨綺諬闙气讫忔気汔迄弃汽矵芞呮泣炁盵咠契洓砌栔氣訖唭欫夡棄湆湇葺碛摖暣甈碶噐憇槭器憩磜磧磩罊蟿鼜缼緕簯掐袷葜拤峠跒酠鞐
圶冾帢恰洽殎硈愘髂千仟阡圱圲奷扦汘芊迁佥岍杄汧瓩茾欦竏臤钎拪牵粁兛悭蚈谸铅婜孯牽釺掔谦鈆雃僉愆签鉛骞鹐慳搴撁箞諐遷褰謙顅檶攐攑櫏簽鵮攓騫鬝鬜籤韆仱岒忴扲拑前钤歬虔钱钳乾偂掮揵軡媊鈐靬鉗墘榩箝銭潛潜
羬蕁橬錢黔黚騝濳騚灊鰬凵浅肷淺脥嗛嵰遣槏膁蜸谴缱繾譴鑓欠刋伣芡俔茜倩悓堑𬘬傔嵌棈椠慊皘蒨塹歉綪蔳儙槧篏輤篟壍嬱縴鰜鎆鏲籖呛羌戕戗斨枪玱羗猐嗴椌溬獇腔嗆蜣锖嶈戧槍牄瑲羫锵篬錆謒蹌镪蹡鎗鏘丬強强墙嫱蔷
樯漒蔃墻嬙廧薔檣牆艢蘠抢羟搶羥墏繈襁繦鏹炝唴跄熗羻悄硗郻嵪跷鄡鄥劁敲毃踍锹墝頝骹墽幧橇燆缲磽鍫鍬繑趬蹺鐰乔侨荍荞桥硚菬喬僑槗谯嘺嫶憔蕎鞒樵橋犞癄瞧礄藮趫鐈鞽顦巧釥愀髜俏诮陗峭帩窍殻翘誚髚僺撬撽鞘韒
竅翹鞩譙躈苆聺且切厒妾怯郄匧窃悏挈洯惬淁笡愜蛪朅箧緁锲篋踥穕藒鍥鯜鐑竊籡亲侵钦衾骎媇嵚欽綅誛嶔親顉駸鮼寴庈芩芹埁珡秦耹菦蚙捦菳琴琹禽鈙鈫雂勤嗪嫀溱靲慬噙擒斳鳹懄檎澿瘽螓懃蠄鬵鵭坅昑笉梫赾寑锓寝寢鋟
螼吢吣抋沁唚菣揿搇撳瀙藽靑青氢轻倾卿郬圊埥寈氫淸清傾蜻輕鲭鑋夝甠剠勍情殑晴棾氰葝暒擏樈擎檠黥苘顷请庼頃廎漀請檾庆凊掅殸碃箐綮靘慶磬儬濪罄謦櫦硘卭邛宆穷穹茕桏笻筇䓖赹惸焪焭琼舼蛩蛬煢熍睘跫銎瞏窮儝憌
橩璚藑瓊竆藭瓗丘丠邱坵恘秋秌蚯媝萩楸蓲鹙篍緧蝵穐趥鳅蟗鞦鞧蘒鰌鰍鶖蠤龝叴囚扏犰玌汓肍求虬泅虯俅觓訄訅酋唒浗紌莍逎逑釚梂殏毬球赇釻崷巯渞湭皳盚遒𨱇煪絿蛷裘巰觩賕璆蝤銶醔鮂鼽鯄鰽搝糗区曲伹佉匤岖诎阹驱
坥屈岨岴抾𪨰㭕浀祛胠袪區紶蛆躯筁粬䓛蛐詘趋嶇憈駆敺誳镼駈麹髷魼趨麯覰軀麴黢覻驅鰸鱋佢劬斪朐胊菃衐鸲淭渠絇翑葋軥蕖璖磲螶鴝璩蟝瞿鼩蘧忂灈戵欋氍籧臞癯蠷衢躣蠼鑺鸜取竘娶詓竬蝺龋齲厺去刞呿唟耝阒觑趣閴麮
闃覷鼁迲奍峑弮恮悛圈圏棬駩𨟠鐉全权佺诠姾泉洤荃拳牷辁啳埢婘惓痊硂铨湶犈筌絟葲搼楾瑔觠詮跧輇蜷銓権踡縓醛闎鳈鬈騡孉巏鰁權齤蠸颧顴犭犬汱畎烇绻綣虇劝券牶勧韏勸椦炔缺蒛阙瘸却卻埆崅𬒈悫琷雀硞确阕塙搉皵碏
鹊愨榷墧慤確碻趞燩闋礐闕鵲礭夋囷峮逡宭帬裙羣群裠呥肰衻袇蚦袡蚺然髥嘫髯燃繎冄冉姌苒染珃䎃媣蒅橪穣儴勷瀼獽蘘禳瓤穰躟鬤壌嚷壤攘爙纕让懹譲讓娆荛饶桡嬈蕘橈襓饒扰隢擾绕遶繞惹热熱人亻仁壬忈朲忎秂芢鈓魜銋
鵀忍荏栠栣荵秹棯稔綛躵刃刄认仞仭讱任屻岃扨纫妊杒牣纴肕轫韧饪姙祍紉衽紝訒軔梕袵絍腍葚靭靱韌飪認餁扔仍辸礽陾芿日驲囸釰鈤馹戎肜栄狨绒茙茸荣容峵毧烿媶嵘搑絨羢嫆嵤搈榵溶蓉榕榮熔瑢穁縙蝾褣镕融螎駥髶嬫嶸
爃鎔巆瀜曧蠑冗宂坈傇軵氄穃厹禸柔粈媃揉渘葇煣瑈腬𫐓糅蝚蹂輮鍒鞣瓇騥鰇鶔楺韖肉宍邚如侞帤茹桇袽铷渪筎蒘銣蕠蝡儒鴑嚅嬬孺濡薷鴽曘燸襦蠕颥醹顬鱬汝肗乳辱鄏擩入扖杁洳嗕媷溽缛蓐鳰褥縟嶿挼堧撋壖阮朊软耎偄軟
媆瑌碝緛輭瓀礝婑桵甤緌蕤蕊蕋橤繠蘂蘃汭芮枘蚋锐瑞蜹睿銳鋭叡壡瞤闰润閏閠潤橍膶捼叒若偌弱鄀婼渃焫楉嵶蒻箬篛爇鰙鰯鶸仨挱挲撒洒訯靸潵灑躠卅泧钑飒脎萨鈒摋隡馺颯薩櫒虄毢愢揌塞毸腮嘥噻鳃顋鰓嗮赛僿賽簺三弎
叁毵毶厁毿犙鬖仐伞傘糁糂馓糝糣糤繖鏒鏾饊俕帴散閐壭橵桒桑槡嗓搡磉褬颡鎟顙丧喪掻慅搔溞骚缫螦繅臊鳋騒騷鰠鱢扫掃嫂埽瘙氉矂髞閪色栜涩啬渋铯雭歮琗嗇瑟歰銫澁懎擌濇濏瘷穑澀璱瀒穡繬穯轖鏼譅飋森椮槮襂僧鬙杀
沙纱乷刹剎砂唦殺猀粆紗莎桬毮铩痧硰煞蔱裟榝樧魦鲨鎩鯊鯋啥傻儍倽唼啑帹萐厦喢嗄廈歃翜箑翣閯霎繌筛篩簁簛釃繺晒閷曬山彡邖圸删刪杉芟姍姗苫衫钐埏挻柵狦珊舢痁脠軕笘閊跚剼搧嘇幓煽潸澘檆縿膻鯅羴羶闪陕炶陝閃
晱煔睒熌覢讪汕疝剡扇訕赸𫮃釤傓善椫銏骟僐鄯墠墡潬缮嬗嶦擅敾樿歚膳磰謆赡繕蟮蟺譱贍鐥饍騸鳝灗鱓鱔伤殇商觞傷墒慯滳漡蔏殤熵螪觴謪鬺垧扄晌赏賞贘鑜丄上尙尚恦绱緔鞝裳弰捎烧莦梢焼稍旓筲艄蛸輎蕱燒颵髾鮹勺芍
苕柖玿韶少劭卲邵绍哨娋袑紹睄綤潲𪨶奢猞赊畬畲輋賒賖檨舌佘虵蛇蛥舍捨厍设社舎厙射涉涻渉設赦弽慑摂摄滠慴摵蔎歙蠂韘騇懾攝灄麝欇谁申屾扟伸身侁呻妽籶绅罙诜姺柛氠珅穼籸𬳽娠峷甡眒砷莘堔敒深紳兟棽葠裑訷蓡詵
甧蔘燊薓駪鲹曑鯓鵢鯵鰺什神𬬹榊鰰邥弞沈审矤哂矧宷谂谉婶渖訠審諗頣魫曋瞫嬸瀋覾讅肾侺昚甚胂涁眘渗祳脤腎愼慎椹瘆罧蜃蜄滲鋠瘮升生阩呏声斘昇枡泩狌苼栍殅牲珄竔陞曻陹笙湦焺甥鉎聲鍟鼪鵿绳縄憴繩譝省眚偗渻圣
胜晠剰盛剩勝貹嵊琞聖墭榺蕂橳賸尸失师呞虱诗邿鸤屍施浉狮師絁釶湤湿葹溮溼獅蒒蓍詩鉇鉈瑡酾𫚕鳲蝨鳾䴓褷鲺濕鍦鯴鰤鶳襹十饣石辻乭时竍识实実旹飠姼峕拾炻祏蚀食埘時莳寔湜遈塒嵵溡蒔鉐實榯蝕鲥鮖鼫識鼭鰣史矢乨
豕使始驶兘宩屎笶榁鉂駛士氏礻丗世仕市示卋式忕亊叓戺事侍势呩柹视试饰冟室恀恃拭是昰枾柿眂䏡贳适栻烒眎眡舐轼逝铈視𬤊釈媞崼弑徥揓谥貰释勢嗜弒煶睗筮觢試軾鈰鉃飾舓誓適鉽奭銴餙餝噬嬕澨諟諡遾螫謚簭襫釋鰘佦
匙篒籂収收手守垨首艏寿受狩兽售授涭绶痩膄壽夀瘦綬獣獸鏉扌书殳尗抒纾叔杸枢陎姝倏倐書殊紓掓梳淑焂菽軗鄃疎疏舒摅毹毺綀输瑹跾踈樞蔬輸橾鮛儵攄瀭鵨秫婌孰赎塾熟璹贖鼡属暑暏黍署蜀鼠潻薥薯曙癙藷襡糬襩屬蠴鱪
鱰鸀朮术戍束沭述侸咰怷树竖荗恕捒𬬸庶庻絉蒁術隃尌裋数竪腧鉥墅漱潄數澍豎樹濖錰鏣鶐虪刷唰耍誜衰摔甩帅帥蟀卛闩拴閂栓涮腨双霜雙孀骦孇騻欆礵鷞鹴艭驦鸘爽塽慡漺樉縔鏯灀脽誰水氺帨涗涚祱稅税裞睡氵閖吮顺舜順
蕣橓瞚瞬鬊说哾說説妁烁朔铄欶硕矟搠蒴槊獡碩箾鎙爍鑠厶纟丝司糹私咝㟃泀俬思虒恖鸶媤斯絲缌蛳楒禗鉰飔凘厮榹禠罳蜤銯锶嘶噝廝撕澌磃緦蕬鋖燍螄蟖蟴颸騦鐁鷥鼶籭死巳亖四似寺汜佀兕姒泤祀価孠杫泗饲驷娰柶牭洍涘
肂飤笥耜釲竢覗嗣肆貄鈶鈻飼禩駟蕼儩瀃忪松枀枩娀柗倯凇崧庺梥淞菘嵩硹蜙憽濍檧鍶鬆㧐怂悚耸竦傱愯楤嵷慫聳駷讼宋诵送颂訟頌誦鎹餸凁捜鄋嗖廀廋搜溲獀蒐蓃馊摉飕摗锼艘螋醙鎪餿颼颾騪叜叟傁嗾瞍擞薮擻藪櫢籔嗽瘶
苏甦酥稣窣穌鯂蘇蘓櫯囌俗玊夙诉泝肃洬涑珟素莤速𫗧宿梀殐粛骕傃粟訴谡嗉塐塑嫊愫溯溸肅遡鹔僳愬榡膆蔌觫趚遬憟樎樕潥碿鋉餗潚縤橚璛簌藗謖蹜驌鱐鷫狻痠酸匴祘笇筭蒜算夊芕虽倠哸浽荽荾眭滖睢綏熣濉鞖雖绥隋随遀
隨瓍瀡膸髄髓亗岁砕祟谇埣嵗遂歲歳煫睟碎隧嬘澻穂誶賥檖燧璲禭穗穟繀襚𫟦邃𬭼旞繐繸譢鐆鐩韢孙狲荪孫飧搎猻蓀飱槂蕵薞损笋隼筍損榫箰簨鎨鶽唆娑莏傞桫梭睃嗍嗦羧蓑摍缩趖簑簔縮髿鮻所乺唢索琐琑惢锁嗩暛溑溹瑣褨
璅鎈鎍鎖鎻鏁逤蜶他它她牠祂趿铊塌榙溻褟嚃闧蹹鿎塔墖獭鳎獺鰨拓挞狧闼崉涾搨遝阘榻毾禢撻澾誻踏橽錔濌蹋鞜鮙闒鞳嚺闥譶躢侤咜遢囼孡胎台旲邰坮抬苔枱炱炲菭跆鲐箈臺颱駘儓鮐嬯擡薹檯籉太冭夳忲汰态肽钛泰舦酞鈦
溙態燤粏坍贪怹痑舑貪摊滩瘫擹攤灘癱坛昙倓谈郯婒惔覃榃痰锬谭墰墵憛潭談醈壇曇燂錟餤檀磹顃罈藫壜譚貚醰譠罎忐坦袒钽菼毯鉭嗿憳憻暺醓璮襢叹炭埮探傝湠僋嘆碳舕歎賧汤铴湯嘡耥劏羰蝪薚镗蹚鏜鐋鞺鼞坣唐堂傏啺棠
鄌塘搪溏蓎隚榶漟煻瑭禟膅䣘樘磄糃膛橖篖糖螗踼糛螳赯醣餳鎕餹闛饄鶶伖帑倘偒埫淌傥躺镋鎲儻戃曭爣矘钂烫摥趟燙夲弢涛绦掏焘絛詜嫍幍慆搯滔槄瑫韬飸縚縧濤謟轁鞱韜饕匋迯咷洮逃桃陶啕梼淘绹萄𫘦祹裪綯蜪鞀醄鞉鋾
錭駣檮饀騊鼗讨討套忑忒特貣铽慝鋱蟘熥膯鼟疼痋幐腾誊漛滕邆縢螣駦謄儯藤騰籐鰧䲢籘虅驣霯剔梯䏲锑踢擿鷈鷉䴘苐厗荑绨偍啼崹惿提稊缇罤遆𫘨鹈嗁瑅綈碮褆徲漽緹蕛蝭銻题趧蹄醍謕蹏鍗鳀鴺題鮷鵜騠鯷鶗鶙禵鷤体挮躰
骵鮧軆體戻屉剃洟朑倜悌涕逖屜悐惕掦笹逷惖揥替楴裼褅歒殢髰薙嚏鬀嚔瓋籊趯天兲婖添酟靔黇靝田屇沺恬畋畑盷胋畠甛甜菾湉塡填搷鈿阗碵緂磌窴鴫璳闐鷆鷏忝殄倎唺悿淟晪琠腆觍痶睓舔餂覥賟錪鍩靦掭瑱睼舚旫佻庣恌挑
祧聎芀条岧岹迢祒條笤萔蓚蓨趒龆樤蜩鋚鞗髫鲦鯈鎥齠鰷宨晀朓脁窕誂斢窱嬥眺粜絩覜跳糶螩帖怗贴萜聑貼铁蛈僣銕鴩鐡鐵驖呫飻餮厅庁汀艼听耓厛烃𬘩桯烴綎鞓聴聼廰聽廳邒廷亭庭莛停婷嵉渟筳葶蜓楟榳閮霆聤蝏諪䗴鼮圢
町甼侹娗挺涏梃烶珽脡铤艇颋誔頲囲炵通痌嗵蓪樋仝同佟彤峂庝𫍣哃峝狪茼晍桐浵烔砼蚒眮秱铜童粡筩詷赨酮鉖僮勭鉵銅餇鲖潼獞曈朣橦氃燑犝膧瞳穜鮦𦒍统㛚捅桶筒統綂恸痛衕慟憅偷偸婾媮鋀鍮亠头投骰緰頭妵紏敨飳黈蘣
透綉凸宊禿秃怢突唋涋捸堗湥痜葖嶀㻬鋵鵚鼵図图凃峹庩徒悇捈涂荼途𬳿屠梌揬稌圕塗嵞瘏筡腯蒤鈯圖圗廜潳跿酴馟鍎駼鵌鶟鷋鷵土圡吐钍釷兎迌兔莵堍菟鵵汢湍猯煓貒团団抟剸團慱摶漙槫篿檲鏄糰鷒鷻疃彖湪褖推蓷藬弚𬯎
颓隤尵頹頺頽魋穨蘈蹪俀腿僓蹆骽侻退娧煺蛻蜕褪駾吞呑旽涒啍朜焞噋暾黗屯坉忳芚饨豘豚軘飩鲀魨霕臀臋氽畽乇仛讬圫托扡汑饦杔侂咃拕拖沰挩捝莌袥託涶脫脱飥魠驝驮佗陀陁坨岮沱沲狏迱驼柁砣砤袉鸵紽堶跎酡碢馱𬶍槖
駄駝駞橐鮀鴕鼧騨鼍驒鼉彵妥庹媠椭楕嫷橢鵎鬌鰖柝毤唾萚跅毻箨蘀籜屲穵劸挖洼娲畖窊媧嗗蛙搲溛漥窪鼃攨娃瓦佤邷咓砙袜聉嗢腽膃襪韈韤瓲哇歪喎竵崴外夞顡弯剜婠帵塆湾蜿潫豌彎壪灣丸刓汍纨芄完岏抏玩笂紈捖顽烷琓
貦頑翫宛倇唍挽盌埦婉惋晚晥梚绾脘菀萖晩晼椀琬皖畹睕碗綩綰輓踠鋔万卍卐𬇕忨杤捥脕萬腕輐澫鋄瞣薍錽蟃贃鎫贎尢尣尪尫汪尩亡亾兦王仼彺莣蚟罒网往徃枉罔徍惘菵暀棢蛧辋網蝄誷輞瀇魍妄忘迋旺盳望朢危威烓偎逶隇隈
喴媙愄揋揻渨葨葳微椳楲溦煨詴蜲縅蝛覣嶶薇燰鳂巍鰃鰄囗韦圩围帏沩𣲗违闱峗峞洈韋桅涠唯帷惟维喡圍媁嵬幃湋溈琟違潍維蓶鄬𬶏潙潿磑醀濰鍏闈鮠癓覹犩霺欈厃伟伪尾纬芛苇委𬀩炜玮𫇭洧娓屗捤浘荱诿偉偽崣梶痏萎隗骩
嵔廆徫愇猥葦蒍𬱟骪骫暐椲煒瑋痿腲艉韪僞撱磈鲔寪緯蔿諉踓韑頠薳儰濻鍡鮪壝瀢韙颹韡亹斖卫为未位味苿為畏胃叞軎尉硙菋谓喂媦渭爲猬煟墛碨蔚蜼慰熭犚緭蝟衛懀璏罻衞謂餧鮇螱褽餵魏藯轊鏏霨鳚蘶饖讆躗讏躛煀昷塭温
榅殟溫瑥辒榲瘟蕰豱輼轀鎾饂鳁鞰鰛鰮匁文彣纹芠𫘜炆玟闻紋蚉蚊珳阌雯瘒聞馼駇魰鳼鴍螡閺閿蟁闅鼤闦刎吻忟抆呡肳紊桽脗稳穏穩问妏汶莬問渂揾搵顐璺呚翁嗡滃𬭩鹟螉鎓鶲勜奣塕嵡蓊暡瞈聬攚瓮蕹甕罋齆挝倭涡莴唩涹渦
猧萵窝窩蜗撾蝸踒我婐捰仴沃肟卧枂臥偓捾涴媉幄握渥焥硪楃腛斡瞃擭濣瓁臒雘龌齷乌圬弙汙汚污邬呜巫杇屋洿诬钨烏剭窏鄔嗚誈歍誣箼螐鴮鎢鰞无毋吳吴吾呉芜郚唔娪峿洖浯茣莁梧珸祦無铻鹀禑蜈蕪璑蟱鯃鵐譕鼯鷡乄五午
仵伍妩庑忤怃𣲘迕旿武玝侮俉倵捂啎娬牾珷摀碔鹉熓瑦舞嫵廡憮潕儛橆甒鵡躌兀勿务戊阢伆屼扤坞岉杌芴忢物矹卼敄误務悞悟悮粅逜晤焐婺嵍痦隖靰骛塢奦嵨溩雺雾寤熃誤鹜鋈窹霚鼿霧齀蘁騖鶩錻夕兮邜吸忚扱汐西覀希扸卥
昔析穸肸肹俙徆怸恓郗饻唏奚屖息悕氥浠牺狶莃唽悉惜晞桸欷淅渓烯焁焈琋硒菥赥釸傒惁晰晳焟焬犀睎稀粞翕翖舾鄎厀嵠徯溪皙蒠锡僖榽煕熄熈熙緆蜥豨餏嘻噏嬆嬉嶲潝瘜磎膝凞暿樨橀熹熺熻窸縘羲螅螇錫燨犠瞦礂蟋谿豀豯
貕糦繥釐雟鯑鵗觹譆醯鏭隵巇曦爔犧酅觽鼷蠵鸂觿鑴习郋席𠅤習袭觋喺媳椺蒵蓆𫘬嶍漝覡趘槢薂隰檄謵鎴霫鳛飁騱騽襲鰼驨枲洗玺徙铣喜葈葸鈢鉨鉩屣漇蓰憘憙橲歖禧諰壐縰謑𬭳蟢蹝璽𬶮鱚囍矖躧匸卌戏屃系饩呬忥怬矽细係
咥恄盻郤欯绤細釳阋椞舃舄趇隙慀滊禊綌赩隟墍熂犔稧潟澙蕮覤戱黖戲磶虩餼鬩繫嚱闟霼屭衋呷虲疨虾谺傄閕煆颬瞎蝦鰕匣侠狎俠叚峡柙炠狭陜峽烚狹珨祫硖翈舺陿硤遐敮暇瑕筪舝碬辖磍縀蕸縖赮魻轄鍜霞鎋黠騢鶷閜丅下乤
吓圷疜夏梺睱嚇懗罅鎼夓鏬仙仚屳先奾纤佡忺氙杴祆秈苮枮籼珗莶掀铦跹酰锨僊僲嘕銛鲜暹韯𬸣嬐憸薟鍁繊褼韱鮮蹮馦孅廯攕纎鶱襳躚纖鱻伭闲妶弦贤咸唌挦涎胘娴娹婱絃舷蚿衔𫍯啣湺痫蛝閑閒鹇嫌衘甉銜嫺嫻憪撏澖稴誸賢
諴輱醎癇癎瞯藖礥鹹麙贒鷳鷴鷼冼狝显险崄毨烍猃蚬険赻筅尟尠搟禒跣㬎銑箲險嶮獫獮藓鍌燹顕幰攇櫶蘚譣玁韅顯灦县咞岘苋𬀪现线臽限姭宪県𪾢陥哯垷娊娨峴涀莧陷晛現馅睍絤缐羡献粯羨腺蜆僩僴綫誢撊線鋧憲橌縣錎餡壏
豏麲瀗臔獻糮霰鼸鑦乡芗相香郷厢啌鄉鄊廂湘缃葙鄕楿稥薌箱緗膷襄忀𬙋骧麘欀瓖镶鱜鑲驤瓨佭详庠栙祥絴翔詳跭享亯响蚃饷晑飨想銄餉鲞曏蠁鮝鯗響饗饟鱶向姠巷项珦象塂缿萫衖項像勨嶑銗橡襐嚮蟓鐌鱌灱灲呺枭侾哓枵骁
宯宵庨消绡虓逍鸮婋梟焇猇萧痚痟硝硣窙翛萷销揱綃嘐歊潇箫踃嘵憢獢銷霄彇膮蕭魈鴞穘簘藃蟂蟏鴵嚣瀟簫蟰髇櫹嚻囂髐鷍蠨驍毊虈洨郩崤淆訤殽筊誵小晓𫍲暁筱筿皛曉篠謏皢孝肖効咲俲哮效校涍笑啸傚敩詨嘋嘨誟嘯歗熽斅
斆恷些揳猲楔歇蝎蠍劦协旪邪協胁垥奊峫恊拹挟挾脅脇脋衺偕斜谐翓嗋愶携瑎綊㙦熁膎勰撷擕緳缬蝢鞋頡諧燲擷鞵襭攜纈讗龤写冩寫藛伳灺泄泻祄绁缷卸洩炧炨卨娎屑屓偞偰徢械烲焎禼紲亵媟屟渫絏絬谢𬹼僁塮榍榭褉噧屧暬
緤嶰廨懈澥獬糏薢薤邂韰燮褻謝夑瀉鞢瀣爕繲蟹蠏齘齛𤫉齥齂躞心邤妡忻芯辛昕杺欣炘盺俽惞訢䜣𫷷鈊锌新歆廞鋅噺嬜薪馨鑫馫枔襑鐔伈阠伩囟孞信軐脪衅訫焮馸顖舋釁忄星垶骍惺猩煋瑆腥蛵觪箵篂謃鮏曐觲騂皨鯹刑行邢饧
形陉侀𫰛郉型洐荥钘陘娙硎铏鈃滎鉶銒鋞睲醒擤兴杏姓幸性荇倖莕婞悻涬緈興嬹臖哘裄凶匂兄兇匈芎讻忷汹哅恟洶胷胸訩詾賯雄熊焽诇焸詗夐敻休俢修咻庥烋烌羞脩脙鸺臹貅馐樇銝髤䗛髹鎀鮴鵂鏅饈鱃飍苬朽滫潃綇糔秀岫峀
珛绣袖琇锈嗅溴璓褎褏銹螑繍繡鏥鏽齅𬣙吁戌旴疞盱欨胥须晇訏顼虗虚谞媭幁揟欻湑虛裇須楈窢頊嘘墟需魆噓嬃歔縃蕦蝑諝𦈡譃繻魖驉鑐鬚俆徐蒣许呴姁诩冔栩珝偦許暊詡稰鄦糈醑盨旭伵序汿芧侐卹怴沀叙恤昫洫㳚垿欰殈烅
珬勖敍敘勗烼绪续酗喣壻婿朂溆絮聓訹慉煦続蓄賉槒漵潊盢瞁緒聟銊獝稸緖魣藇瞲藚續鱮蓿吅轩昍宣弲軒梋谖喧塇媗愃愋揎萱萲𫓶暄煊瑄蓒睻儇禤箮縇翧蝖𫍽鋗懁蕿諠諼鍹駽矎翾藼蘐蠉譞鰚玄𫠊玹痃悬旋琁蜁嫙漩暶璇檈璿懸
咺选晅烜選顈癣癬怰泫昡炫绚眩袨铉琄眴衒渲絢楥楦鉉碹蔙镟鞙颴縼繏鏇讂贙削疶蒆靴薛辥辪鞾穴斈乴学岤峃茓泶袕鸴踅噱壆學嶨澩燢觷雤鷽雪膤樰艝轌鳕鱈血吷坹狘桖谑趐謔瀥坃勋埙焄勛塤熏蔒勲勳薫駨嚑壎獯𫄸薰曛燻臐
矄蘍壦爋纁醺廵寻旬𬘓巡杊畃询峋恂洵浔紃荀荨𬩽栒桪毥𬊈珣𬍤偱尋循揗詢馴鄩鲟噚潯攳樳燅燖璕蟳鱏鱘灥卂训讯伨汛迅驯侚巺徇狥迿逊殉訊訓訙奞巽殾稄遜愻賐噀潠蕈顨鑂丫圧压庘押枒垭鸦桠鸭埡孲铔椏鴉錏鴨壓鵶鐚牙伢
厑岈芽厓玡琊笌蚜堐崕崖涯猚瑘睚衙漄齖厊庌哑唖啞痖雅瘂蕥劜圠轧亚襾讶亜犽迓亞軋娅挜砑俹氩婭掗訝揠氬猰聐圔稏窫齾乛呀恹剦烟珚胭偣崦淊淹焉焑菸阉阏湮腌煙硽鄢嫣漹嶖樮醃閹嬮懨篶懕臙黫讠延闫严妍芫言訁岩昖沿
炎郔姸娫狿研莚娮盐𫄧啱琂硏訮閆阎嵒嵓筵綖蜒塩揅楌詽碞蔅颜厳虤閻檐顏顔嚴壛巌簷櫩黬壧孍巗巖欕礹鹽麣夵抁沇乵兖奄俨兗匽弇衍䶮偃厣掩眼萒郾酓嵃愝扊揜棪渰渷琰遃隒椼罨裺演𬙂褗𬸘戭蝘魇噞𪩘躽縯檿黡厴甗鰋鶠黤
齞龑儼黭顩鼴巘巚曮魘鼹齴黶厌妟觃牪咽姲彥彦砚唁宴晏烻艳覎验偐掞焔谚隁喭堰敥焰焱猒硯葕雁傿椻溎滟鳫厭墕暥熖酽嬊谳餍鴈燄燕諺赝鬳曕鴳酀騐験嚥嬿艶贋軅曣爓醶騴鷃灔贗觾讌醼饜驗鷰艷灎釅驠灧讞豓豔灩央咉姎抰
泱殃胦眏秧鸯鉠雵鞅鴦扬羊阦阳旸杨炀玚飏佯劷氜疡钖垟徉昜洋羏烊珜眻陽崵崸揚蛘敭暘楊煬禓瘍諹輰鍚鴹颺鐊鰑霷鸉仰佒坱岟养柍炴氧痒紻傟楧軮慃氱蝆養駚懩攁癢礢怏恙样羕詇様漾樣瀁羪幺夭吆妖枖殀祅訞喓㙘葽楆腰鴁
邀爻尧尭肴垚姚峣轺倄烑珧窑傜堯揺谣軺嗂媱徭愮搖摇滧猺遙遥摿暚榣瑤瑶銚飖餆嶢嶤磘窯窰餚繇謠謡鎐鳐颻蘨邎顤鰩仸宎岆抭杳狕苭咬柼眑窅窈舀偠婹溔蓔榚鴢闄騕齩鷕穾药要钥袎窔崾筄葯詏熎覞靿獟鹞薬鼼曜燿艞藥矅耀
纅鷂讑鑰倻掖椰暍噎潱蠮爷耶捓揶铘爺釾鋣鎁擨也吔冶埜野嘢漜壄业叶曳页曵邺夜抴亱枼洂頁捙晔枽烨啘液谒殗腋葉鄓墷業馌僷曄曅歋燁璍擛皣瞱鄴靥嶪嶫澲謁餣嚈擫曗瞸鍱擪爗礏鎑饁鵺鐷靨驜鸈亪一乊弌辷衤伊衣医吚壱依
祎咿洢悘渏猗畩郼铱壹揖蛜禕嫛漪稦銥嬄噫夁瑿鹥繄檹毉醫黟譩鷖黳乁仪匜圯夷迆冝宐沂诒侇宜怡沶狋衪迤饴咦姨峓恞拸柂珆瓵贻迻宧巸弬扅栘桋眙胰袘訑貤痍移耛萓椬羠蛦詑詒貽遗媐暆椸誃跠頉颐飴疑儀熪箷遺嶬彛彜螔頤
頥寲嶷簃顊彝彞謻鏔籎觺讉鸃乙已以钇佁攺矣苡苢庡舣蚁釔倚扆笖逘酏偯崺旑椅鈘鉯𫖮鳦裿旖踦輢敼螘𬺈檥礒艤蟻顗轙齮乂义亿弋刈忆艺匇肊议亦伇屹异芅伿佚劮呓坄役抑杙耴苅译邑佾㑊呭呹峄怈怿易枍欥泆炈秇绎诣𬬩驿俋
奕帟帠弈枻浂玴疫羿衵轶唈垼悒挹栧栺欭浥浳益袣谊陭勚埶埸悥掜殹異硛羛翊翌萟訲訳豙豛逸釴隿幆敡晹棭殔湙焲蛡詍跇軼鈠骮亄兿意溢獈痬睪竩缢義肄裔裛詣勩嫕廙榏潩瘗膉蓺蜴靾駅億撎槸毅熠熤熼瘞誼镒鹝鹢黓劓圛墿嬑
嬟嶧憶懌曀殪澺燚瘱瞖穓縊𫄷艗薏螠褹寱斁曎檍歝燡燱翳翼臆貖賹鮨癔藙藝𬟁贀鎰镱繶繹豷霬鯣鶂鶃鶍瀷蘙譯議醳醷饐囈鐿鷁鷊懿襼驛鷧虉鷾讛齸囙因阥阴侌垔姻洇𬘡茵荫音骃栶殷氤陰凐秵裀𬤇铟陻隂喑堙婣愔筃絪𬮱歅溵禋
蒑蔭慇瘖銦緸鞇諲霒駰噾闉霠韾冘乑吟犾苂斦烎垠泿圁峾狺珢荶訔訚婬寅崟崯淫硍訡银鈝龂滛碒鄞夤蔩銀龈噖殥璌誾嚚檭蟫霪齗鷣乚廴尹引吲饮蚓赺隐淾鈏飲隠靷飮朄輑磤趛檃瘾隱嶾濥濦螾蘟櫽癮讔印茚洕胤垽堷湚猌廕窨酳
慭癊憖憗鮣䲟懚檼粌应応英偀桜珱莺啨婴媖愥渶绬朠煐瑛䓨嫈碤锳嘤撄甇緓缨罂蝧賏樱璎罃褮鍈霙鴬鹦嬰應膺韺甖鹰鶑鶧嚶孆孾攖罌蘡譍櫻瓔礯譻鶯鑍纓蠳鷪軈鷹鸎鸚盁迎茔盈荧莹営萤营萦蛍溋溁萾僌塋楹滢蓥潆熒蝇瑩蝿嬴
營縈螢濙濚濴藀覮謍赢瀅鎣攍瀛瀠瀯蠅櫿瀴贏灐籝灜籯矨郢浧梬颍颕颖摬影潁瘿穎頴巊廮鐛癭映暎硬媵膡噟鞕鱦哟唷喲佣拥痈邕庸傭嗈鄘雍墉嫞慵滽槦牅噰壅擁澭郺镛臃癕雝鏞鳙廱灉饔鱅鷛癰喁揘颙顒鰫永甬咏怺泳俑勇勈栐
埇悀柡涌恿傛惥愑湧硧詠塎嵱彮愹蛹慂踊禜鲬踴鯒用苚㶲砽醟优忧攸呦怮泑幽逌悠麀滺憂優鄾嚘瀀櫌纋耰尤由沋犹邮油肬怣斿疣峳浟秞莜莸郵铀偤蚰訧逰游猶遊鱿楢猷𬨎鈾鲉輏駀蕕蝣魷輶鮋櫾友有丣卣苃酉羑庮栯羐莠梄聈脜
铕湵禉蜏銪槱牖牗黝懮又右幼佑侑孧狖糿哊囿姷宥峟柚牰祐诱迶唀蚴亴貁釉酭誘鼬蒏込扜纡迂迃穻陓紆虶唹淤盓瘀箊亐于邘伃余妤扵杅欤玗玙於盂臾衧鱼乻俞兪禺竽舁茰娛娯娱桙狳谀酑馀渔萸隅雩魚堣堬崳嵎嵛愉揄楰渝湡畭
硢腴萮逾骬愚旕楡榆歈牏瑜艅虞觎漁睮窬舆褕歶羭蕍蝓諛雓餘嬩澞覦踰歟璵螸輿鍝謣髃鮽旟籅騟鯲蘛鰅鷠鸆与予伛宇屿羽雨俁俣挧禹语圄祤偊匬圉庾敔鄅斞㺄萭傴寙楀瑀瘐與語窳鋙頨龉噳嶼懙貐斔麌蘌齬肀玉驭聿芋芌妪忬饫
育郁昱狱秗茟俼峪彧浴砡钰预喐域堉悆惐欲淢淯袬谕逳阈喅喩喻媀寓庽御棛棜棫焴琙矞硲裕遇飫馭鹆愈滪煜稢罭艈蒮蓣誉鈺預嫗嶎戫毓獄瘉緎蜟蜮輍銉噊慾潏稶蓹豫遹鋊鳿澦燏燠蕷諭錥閾鴥鴧鴪儥礇禦魊鹬癒礖礜穥篽繘醧鵒
櫲饇譽轝鐭霱欎驈鬻籞鱊鷸鸒欝龥軉鬰鬱灪籲爩澚囦鸢剈冤悁眢鸳寃渁渆渊渕惌淵葾棩蒬蜎裷鹓箢鳶蜵駌鴛嬽鵷灁鼘鼝元円贠邧员园妧沅杬垣爰貟原員圆笎蚖袁厡酛圎援湲猨缘茒鈨鼋園圓塬媴嫄源溒猿獂蒝𫘪榞榬辕緣縁蝝蝯
魭橼羱薗螈謜轅黿鎱櫞邍騵鶢鶰厵远盶逺遠鋺夗肙妴苑怨院垸衏傆媛掾瑗禐愿裫褑褤噮願曰曱约約箹矱彟彠月戉刖妜岄抈礿𫐄岳玥恱悅悦蚎蚏軏钺阅捳跀跃粤越鈅粵鉞𬸚閱閲嬳樾篗嶽龠籆瀹蘥黦爚禴躍籥鸑籰鸙晕蒀暈氲煴蒕
𫖳氳奫蝹赟頵馧贇云勻匀伝囩妘沄纭芸昀畇眃秐郧涢紜耘耺鄖雲愪溳筠筼蒷熉澐蕓鋆橒篔縜允阭夽抎狁陨荺殒喗鈗隕殞褞馻磒賱霣齫齳孕运枟郓恽鄆酝傊惲愠缊運慍腪韫韵熅熨緷緼蕴縕薀醖醞餫藴韗韞蘊韻抣繧帀匝沞迊咂拶
紥紮鉔魳臜臢杂沯砸偺喒韴雑磼襍雜囋囐雥咋災灾甾哉栽烖菑渽溨睵賳宰崽再在扗洅载傤載酨儎縡兂糌簪簮鐕鐟咱昝桚寁揝噆撍儧攅攒儹攢趱趲暂暫賛赞錾鄼濽蹔酂瓉贊鏨瓒酇灒讃瓚禶襸讚饡匨牂羘赃賍臧蔵賘贓髒贜驵駔奘
弉脏塟葬銺臓臟傮遭糟蹧醩凿鑿早枣栆蚤棗澡璪薻繰藻灶皁皂唕唣造梍喿慥煰艁噪簉燥竃𥖨譟趮躁竈则択沢择泎泽责迮則唶啧帻笮舴責溭矠嘖嫧幘箦蔶樍歵諎赜擇澤皟瞔簀礋襗謮賾蠌齚齰鸅夨仄庂汄昃昗捑崱伬贼戝賊鲗鯽蠈
鰂鱡怎谮譖譛囎増鄫增憎缯橧熷璔矰磳罾繒䎖譄鱛锃鋥甑赠贈扎吒抯奓挓柤査哳偧喳揸渣楂摣皶樝觰皻譇齄齇札甴闸蚻铡煠牐閘劄箚耫鍘譗厏拃苲眨砟搩鲊鲝踷鮓鮺乍灹诈咤柞栅炸宱痄蚱溠詐搾榨䃎霅醡夈粂捚斋斎摘榸齋宅
檡窄鉙债砦債寨瘵枬沾毡旃栴粘蛅飦惉詀趈詹閚谵噡薝邅霑𫗴氈氊瞻鹯旜譫饘鳣驙魙鱣鸇讝斩飐展盏崭斬琖搌盞嶃嶄榐辗颭嫸醆橏輾黵占佔战栈桟站偡绽菚棧湛戦綻嶘輚戰虥虦覱轏譧蘸驏张張章傽鄣嫜彰慞漳獐粻蔁遧暲樟璋
餦蟑騿鱆麞仉长長涨掌漲幥礃丈仗扙帐杖胀账粀帳涱脹痮障墇嶂幛賬瘬瘴瞕鏱佋钊妱巶招昭盄釗𬬿啁鉊駋窼鍣皽爪爫找沼瑵召兆诏枛垗炤狣赵笊肁旐棹詔照罩肇肈趙𬶐曌燳鮡櫂瞾羄罀蜇嗻嫬遮厇折歽矺砓籷虴哲埑粍袩啠悊晢
晣辄喆蛰詟谪馲摺輒磔輙銸辙蟄嚞謫謺鮿轍讁讋者乽啫禇锗赭褶鍺襵这柘浙這淛蔗樜潪鹧蟅䗪鷓着贞针侦帧浈珍珎胗貞帪栕桢眞真砧祯針偵桭酙寊葴遉嫃搸斟楨獉甄禎蒖蓁鉁靕榛殝瑧碪禛潧箴樼澵臻薽錱轃鍼籈鱵诊抮枕弫昣
轸屒畛疹眕袗紾聄萙裖診軫缜稹駗縥鬒黰圳阵纼甽侲挋陣鸩振朕栚紖眹赈酖塦揕絼敶誫賑鋴镇震鴆鎭鎮凧争佂姃征怔爭埩峥挣炡狰烝眐钲崝崢掙猙睁聇铮媜揁筝徰蒸睜踭鉦徴箏錚篜鬇鯖癥氶抍糽拯掟晸愸撜整正证诤郑政症幀
証塣諍鄭鴊證之支卮汁芝吱巵汥坧枝泜知织肢栀祗秓秖胑胝𦭜衼倁疷祬秪脂隻梔戠椥臸搘禔稙綕榰蜘馶鳷鴲織蘵鼅执侄妷直姪値值聀釞埴執淔职植殖犆禃絷跖嗭瓡鉄墌摭馽嬂慹漐踯樴膱縶職蟙蹠軄躑夂止只凪劧旨阯址坁帋扺
汦沚纸芷怾抧祉咫恉指枳洔砋衹轵淽疻紙訨趾軹黹酯徵藢襧阤至芖志忮扻豸制厔垁帙帜治炙质迣郅俧峙庢庤挃柣栉洷祑陟娡徏挚晊桎狾秩致袟贽轾乿偫徝掷梽楖猘畤痔秲秷窒紩翐袠觗貭铚鸷傂崻彘智𬃊滞痣蛭軽骘寘廌搱滍稚
筫置跱輊锧雉墆滯潌疐製覟誌銍幟憄摯熫稺膣觯質踬鋕擳旘瀄緻隲駤鴙儨劕懥擲櫛穉螲懫贄櫍瓆觶騭鯯礩豑騺驇躓鷙鑕豒徔中伀汷刣妐彸忠泈炂终柊盅衳钟舯衷終鈡幒蔠锺銿螤鴤螽鍾鼨蹱鐘籦肿种冢喠尰塚塜歱煄腫瘇種踵仲
众妕狆祌茽衶重蚛偅眾堹媑筗衆諥州舟诌侜周洲炿诪烐珘辀郮婤徟掫淍矪週鸼喌粥赒輈銂賙輖霌駲盩謅鵃騆譸妯轴軸碡肘帚疛菷晭睭箒鯞纣伷㑇呪咒宙㤘绉冑咮昼紂胄荮皱酎晝粙葤詋甃詶僽皺駎噣縐骤籀籕籒驟朱劯侏诛邾洙
茱株珠诸猪硃秼袾铢絑蛛誅跦槠潴蝫銖橥諸豬駯鮢鴸瀦櫫櫧鯺鼄蠩竹泏竺炢笁茿烛窋逐笜舳瘃築燭蠋躅鱁孎灟曯欘爥蠾钃丶主𬣞宔拄罜陼渚煮煑詝嘱濐麈瞩劚囑斸矚伫佇住助纻苎坾杼注贮迬驻壴柱柷殶炷祝疰眝砫祩竚莇紵紸
羜著蛀嵀筑註貯跓軴铸筯鉒馵墸箸翥樦鋳駐篫霔麆簗鑄抓檛膼簻髽跩拽专叀䏝専砖專鄟塼嫥瑼甎磗膞颛磚諯蟤顓鱄转孨転竱轉灷啭堟蒃瑑腞僎赚撰篆馔篹襈賺譔饌囀籑妆庄妝庒荘娤桩莊梉湷粧装裝樁糚壮壯状狀壵焋撞戇隹追
骓椎锥錐騅鵻沝坠桘笍娷缀惴甀缒畷硾膇墜綴赘縋諈醊錣餟礈贅轛鑆宒迍肫窀谆諄衠准埻𬘯凖準綧訰稕拙炪倬捉桌棁涿棳槕穛䦃穱蠿圴彴汋犳灼卓叕妰茁斫浊丵浞烵诼酌啄啅娺梲斱晫椓琸䓬硺窡罬撯擆斲禚劅諁諑鋜濁篧𬸦擢
斀斵濯櫡謶镯鐯鵫灂蠗鐲籗鷟籱窧乲孜茊兹咨姕姿茲栥玆紎赀资崰淄秶缁谘赼嗞孳嵫椔湽滋粢葘辎鄑孶禌觜貲資趑锱稵緇鈭镃龇輜鼒澬諮趦輺錙髭鲻鍿鎡璾頿頾鯔鶅齍鰦蓻子仔吇姉姊杍矷秄胏呰秭籽耔虸笫梓釨啙紫滓訾訿榟
橴字自芓茡荢倳剚恣牸渍眥眦胔胾漬宗倧综骔堫嵏嵕惾棕猣腙葼椶朡嵸稯綜緃熧緵翪蝬踨踪磫鍐豵蹤騌鬃騣鬉鬷鯮鯼鑁总偬捴惣愡揔搃傯蓗摠総縂燪總鏓纵昮疭倊猔碂粽糉瘲縦錝縱糭潈邹驺诹郰陬菆棷棸鄒箃緅諏鄹鲰鯫黀騶
齱齺赱走鯐奏揍楱租菹葅蒩卆足卒哫崒崪族傶箤踤踿镞鏃诅阻组俎爼珇祖唨組詛靻鎺钻躜鑽繤缵纂纉籫纘攥鑚厜朘嗺樶蟕纗嶊嘴嶵噿璻栬絊酔最晬祽稡罪辠槜酻蕞醉檇鋷錊檌穝尊墫壿嶟遵樽𨱔繜罇鶎鐏鳟鱒鷷僔噂撙譐捘銌嘬
昨秨莋捽椊琢稓筰鈼左佐繓作坐阼岝岞怍侳祚胙唑座袏做葃葄酢蓙飵糳咗&(一)<<<㈠&(七)<<<㈦&(三)<<<㈢&(九)<<<㈨&(二)<<<㈡&(五)<<<㈤&(代)<<<㈹&(企)<<<㈽
&(休)<<<㉁&(八)<<<㈧&(六)<<<㈥&(労)<<<㈸&(十)<<<㈩&(協)<<<㈿&(名)<<<㈴&(呼)<<<㈺&(四)<<<㈣&(土)<<<㈯&(学)<<<㈻&(日)<<<㈰
&(月)<<<㈪&(有)<<<㈲&(木)<<<㈭&(株)<<<㈱&(水)<<<㈬&(火)<<<㈫&(特)<<<㈵&(監)<<<㈼&(社)<<<㈳&(祝)<<<㈷&(祭)<<<㉀&(自)<<<㉂
&(至)<<<㉃&(財)<<<㈶&(資)<<<㈾&(金)<<<㈮&0点<<<㍘&10日<<<㏩&10月<<<㋉&10点<<<㍢&11日<<<㏪&11月<<<㋊&11点<<<㍣&12日<<<㏫
&12月<<<㋋&12点<<<㍤&13日<<<㏬&13点<<<㍥&14日<<<㏭&14点<<<㍦&15日<<<㏮&15点<<<㍧&16日<<<㏯&16点<<<㍨&17日<<<㏰&17点<<<㍩
&18日<<<㏱&18点<<<㍪&19日<<<㏲&19点<<<㍫&1日<<<㏠&1月<<<㋀&1点<<<㍙&20日<<<㏳&20点<<<㍬&21日<<<㏴&21点<<<㍭&22日<<<㏵
&22点<<<㍮&23日<<<㏶&23点<<<㍯&24日<<<㏷&24点<<<㍰&25日<<<㏸&26日<<<㏹&27日<<<㏺&28日<<<㏻&29日<<<㏼&2日<<<㏡&2月<<<㋁
&2点<<<㍚&30日<<<㏽&31日<<<㏾&3日<<<㏢&3月<<<㋂&3点<<<㍛&4日<<<㏣&4月<<<㋃&4点<<<㍜&5日<<<㏤&5月<<<㋄&5点<<<㍝&6日<<<㏥
&6月<<<㋅&6点<<<㍞&7日<<<㏦&7月<<<㋆&7点<<<㍟&8日<<<㏧&8月<<<㋇&8点<<<㍠&9日<<<㏨&9月<<<㋈&9点<<<㍡&〔三〕<<<🉁&〔二〕<<<🉂
&〔勝〕<<<🉇&〔安〕<<<🉃&〔打〕<<<🉅&〔敗〕<<<🉈&〔本〕<<<🉀&〔点〕<<<🉄&〔盗〕<<<🉆&一<<<⼀&一<<<㆒&一<<<㊀&一<<<🈩&丁<<<㆜&七<<<㊆&三<<<㆔
&三<<<㊂&三<<<🈪&上<<<㆖&上<<<㊤&下<<<㆘&下<<<㊦&丙<<<㆛&丨<<<⼁&中<<<㆗&中<<<㊥&中<<<🈭&丶<<<⼂&丿<<<⼃&乙<<<⼄&乙<<<㆚&九<<<㊈
&亅<<<⼅&二<<<⼆&二<<<㆓&二<<<㊁&二<<<🈔&五<<<㊄&亠<<<⼇&交<<<🈘&人<<<⼈&人<<<㆟&令和<<<㋿&企<<<㊭&休<<<㊡&優<<<㊝&儿<<<⼉&入<<<⼊
&八<<<⼋&八<<<㊇&六<<<㊅&冂<<<⼌&再<<<🈞&冖<<<⼍&写<<<㊢&冫<<<⼎&几<<<⼏&凵<<<⼐&刀<<<⼑&初<<<🈠&前<<<🈜&割<<<🈹&力<<<⼒&労<<<㊘
&勹<<<⼓&匕<<<⼔&匚<<<⼕&匸<<<⼖&医<<<㊩&十<<<⼗&十<<<〸&十<<<㊉&卄<<<〹&卅<<<〺&協<<<㊯&卜<<<⼘&卩<<<⼙&印<<<㊞&厂<<<⼚&厶<<<⼛
&又<<<⼜&双<<<🈒&口<<<⼝&可<<<🉑&右<<<㊨&右<<<🈮&合<<<🈴&名<<<㊔&吹<<<🈥&問<<<㉄&営<<<🈺&囗<<<⼞&四<<<㆕&四<<<㊃&土<<<⼟&土<<<㊏
&地<<<㆞&士<<<⼠&声<<<🈤&夂<<<⼡&夊<<<⼢&夕<<<⼣&多<<<🈕&夜<<<㊰&大<<<⼤&大正<<<㍽&天<<<㆝&天<<<🈗&女<<<⼥&女<<<㊛&子<<<⼦&字<<<🈑
&学<<<㊫&宀<<<⼧&宗<<<㊪&寸<<<⼨&小<<<⼩&尢<<<⼪&尸<<<⼫&屮<<<⼬&山<<<⼭&巛<<<⼮&工<<<⼯&左<<<㊧&左<<<🈬&己<<<⼰&巾<<<⼱&干<<<⼲
&平成<<<㍻&幺<<<⼳&幼<<<㉅&广<<<⼴&廴<<<⼵&廾<<<⼶&弋<<<⼷&弓<<<⼸&彐<<<⼹&彡<<<⼺&彳<<<⼻&後<<<🈝&得<<<🉐&心<<<⼼&戈<<<⼽&戶<<<⼾
&手<<<⼿&手<<<🈐&打<<<🈱&投<<<🈧&指<<<🈯&捕<<<🈨&支<<<⽀&攴<<<⽁&文<<<⽂&文<<<㉆&斗<<<⽃&料<<<🈛&斤<<<⽄&新<<<🈟&方<<<⽅&无<<<⽆
&日<<<⽇&日<<<㊐&明治<<<㍾&映<<<🈙&昭和<<<㍼&曰<<<⽈&月<<<⽉&月<<<㊊&月<<<🈷&有<<<㊒&有<<<🈶&木<<<⽊&木<<<㊍&株<<<㊑&株式会社<<<㍿
&欠<<<⽋&止<<<⽌&正<<<㊣&歹<<<⽍&殳<<<⽎&毋<<<⽏&母<<<⺟&比<<<⽐&毛<<<⽑&氏<<<⽒&气<<<⽓&水<<<⽔&水<<<㊌&注<<<㊟&満<<<🈵&演<<<🈦
&火<<<⽕&火<<<㊋&無<<<🈚&爪<<<⽖&父<<<⽗&爻<<<⽘&爿<<<⽙&片<<<⽚&牙<<<⽛&牛<<<⽜&特<<<㊕&犬<<<⽝&玄<<<⽞&玉<<<⽟&瓜<<<⽠&瓦<<<⽡
&甘<<<⽢&生<<<⽣&生<<<🈢&用<<<⽤&田<<<⽥&甲<<<㆙&申<<<🈸&男<<<㊚&疋<<<⽦&疒<<<⽧&癶<<<⽨&白<<<⽩&皮<<<⽪&皿<<<⽫&監<<<㊬&目<<<⽬
&矛<<<⽭&矢<<<⽮&石<<<⽯&示<<<⽰&社<<<㊓&祝<<<㊗&禁<<<🈲&禸<<<⽱&禾<<<⽲&秘<<<㊙&穴<<<⽳&空<<<🈳&立<<<⽴&竹<<<⽵&箏<<<㉇&米<<<⽶
&糸<<<⽷&終<<<🈡&缶<<<⽸&网<<<⽹&羊<<<⽺&羽<<<⽻&老<<<⽼&而<<<⽽&耒<<<⽾&耳<<<⽿&聿<<<⾀&肉<<<⾁&臣<<<⾂&自<<<⾃&至<<<⾄&臼<<<⾅
&舌<<<⾆&舛<<<⾇&舟<<<⾈&艮<<<⾉&色<<<⾊&艸<<<⾋&虍<<<⾌&虫<<<⾍&血<<<⾎&行<<<⾏&衣<<<⾐&襾<<<⾑&見<<<⾒&角<<<⾓&解<<<🈖&言<<<⾔
&谷<<<⾕&豆<<<⾖&豕<<<⾗&豸<<<⾘&貝<<<⾙&財<<<㊖&販<<<🈣&資<<<㊮&赤<<<⾚&走<<<⾛&走<<<🈰&足<<<⾜&身<<<⾝&車<<<⾞&辛<<<⾟&辰<<<⾠
&辵<<<⾡&遊<<<🈫&適<<<㊜&邑<<<⾢&酉<<<⾣&配<<<🈻&釆<<<⾤&里<<<⾥&金<<<⾦&金<<<㊎&長<<<⾧&門<<<⾨&阜<<<⾩&隶<<<⾪&隹<<<⾫&雨<<<⾬
&靑<<<⾭&非<<<⾮&面<<<⾯&革<<<⾰&韋<<<⾱&韭<<<⾲&音<<<⾳&頁<<<⾴&項<<<㊠&風<<<⾵&飛<<<⾶&食<<<⾷&首<<<⾸&香<<<⾹&馬<<<⾺&骨<<<⾻
&高<<<⾼&髟<<<⾽&鬥<<<⾾&鬯<<<⾿&鬲<<<⿀&鬼<<<⿁&魚<<<⿂&鳥<<<⿃&鹵<<<⿄&鹿<<<⿅&麥<<<⿆&麻<<<⿇&黃<<<⿈&黍<<<⿉&黑<<<⿊&黹<<<⿋
&黽<<<⿌&鼎<<<⿍&鼓<<<⿎&鼠<<<⿏&鼻<<<⿐&齊<<<⿑&齒<<<⿒&龍<<<⿓&龜<<<⿔&龟<<<⻳&龠<<<⿕&虫<重庆/庆&弞<沈阳/阳&銺<藏文/文"

end Collation

end StyleHost
