/-!
# Chinese by strokes

The rules of one of the orders of Chinese.

* `strokeRules` : the rules, without those of tone marks.
-/

namespace StyleHost

namespace Collation

/-- Ideographs by the number of their strokes. -/
def strokeRules : String :=
"[reorder Hani Bopo]&[last regular]<*一丨丶丿乀乁乙乚⺄乛𠃊𠃋𠃌𠃍𠃑亅𠄌𠄎𡿨〆〇〡〥〻丁丂七丄丅丆丩丷乂乃乄𠂆𠂇𠂊乜九了二亠人亻儿入八⺆冂冖冫几⺇凵刀刁⺈刂力勹匕
匚匸十⺊卜卩厂厶⺀又巜讠⻏⻖〢〤〦万丈三上下丌亐卄个丫㐄丸义久乆乇么乊乞也习亇亍于亏亡亼亽亾亿𠆤兀兦凡凢凣刃刄劜勺卂千卪卫㔾叉口囗土士夂夊夕大夨女子孑孒孓宀寸⺌⺍小尢𡯁𡯂尸屮山巛川工己已巳巾干乡幺
广廴廾弋弓彐⺕彑彡彳忄扌才氵犭纟⺾艹䒑⻌门阝飞饣马々〣〧不与丏丐丑丒专中丮丯丰丹为之乌尹乣乤乥书予云互亓五井亖亢亣什仁仂仃仄仅仆仇仈仉今介仌仍从仏仐仑仒仓允兂元內公六兮兯冃冄内円冇冈冗冘㓁凤𠘰凶𠙶
刅分切刈劝办勻勼勽勾勿匀匁匂化㔫匹区卅卆升午㔹卝卞卬厃厄厅历厷厸厹及友双反収圠圡𡈼壬夃天太夫夬夭孔尐少尣尤尺屯乢屲巴巿帀币幻廿开弌弔引弖𢒼心忆戈戶户戸手扎𢩦支攴攵文斗斤方无旡⺜日曰⺝月木朩𣎴欠止龰
歹殳毋毌比毛氏气水火灬爪⺥爫父爻丬爿片牙㸦⺧牛牜犬王𤣩礻𥘅罓耂肀⺼𧘇见计订讣认讥贝车⻍辶闩韦风〨〩丗且丕世丘丙业丛东丝㐀丱主丼乍乎乏乐𠂔乧亗仔仕他仗付仙仚仛仜仝仞仟仠仡仢代令以仦仧仨仩仪仫们仭㐰㐱
㐲㐳㐴㐵㐶㐷𠆩𠆫兄充㒰兰冉冊冋册囘𠕇写冚冬冭冮冯凥処凧凷凸凹出击刉刊刋刌刍功加务劢匃匄包匆匇北匛匜匝匞卉半卌卟占卡卢卭卮卯𠨑厇厈厉厺去厼叏叐发古句另叧叨叩只叫召叭叮可台叱史右叴叵叶号司叹叺叻叼叽叾
𠮟𠮨𠮩囙囚四囜龱圢圣圤圥圦圧㘦壭处外夗夘央夯夰失夲夳头奴奵奶孕宁宂它宄对尒尓尔尕尻尼屳屴屵屶屷左巧巨市布帄帅㠲㠳平幼庀庁庂広弁弍弗弘归㣔必㣺忇忉忊𢖯戉戊戋戹扐扑扒打扔払扖扏斥旦旧𣄽曱未末本札朮术朰
正歺母氐民氕氺氶氷永氹氻氾氿汀汁汃汄汅汇汈汉灭犮犯犰玄玉玊玌玍瓜瓦甘生用甩田由甲申甴电疋𤴓⺪疒癶白皮皿目矛矢石示⺬禸禾穴立纠罒𦉪𦉫𦘒肊艺衤讦讧讨让讪讫讬训议讯记讱𬣙轧辷邒邓钅长闪阞队饤饥驭鸟龙丞丟
丠両丢㐁乑乒乓乔乨乩乪乫乬乭乮乯买争亘亙亚交亥亦产㐫仮仯仰仱仲仳仴仵件价仸仹仺任仼份仾仿伀企伂伃伄伅伆伇伈伉伊伋伌伍伎伏伐休伒伓伔伕伖众优伙会伛伜伝伞伟传伡伢伣伤伥伦伧伨伩伪伫伬㐸㐹㐻㐿㑀𠇁𠇔佤兆
兇先光兊全氽共兲关兴再冎军农冰冱冲决冴𠖳凨凩凪凫凼刎刏刐刑划刓刔刕刖列刘则刚创劣劤劥劦劧动匈匟匠匡匢卋卍华协卐㔻印危厊压厌厍㕂厽厾叒叿吀吁吂吃各吅吆吇合吉吊吋同名后吏吐向吒吓吔吕吖吗㕦𠮿𠯆囝回囟因
囡团団在圩圪圫圬圭圮圯地圱圲圳圴圵圶圷圸圹场𡉏壮夅夙多夛夵夶夷夸夹夺夻夼奷奸她奺奻奼好奾奿妀妁如妃妄妅妆妇妈㚥𡚸𡚺孖字存孙𡥄宅宆宇守安寺寻导尖尗尘尥尦尧尽𡰪屰屸屹屺屻屼屽屾屿岀岁岂岃𡵆州巟巩巪帆帇
师㠴㠵㠶年幵并庄庅庆廵异弎式弐弙弚弛弜当彴彵𢓁忈忋忏忓忔忕忖忙忚忛𢖾戌戍戎戏成扗托扙扚扛扜扝扞扠扡扢扣扤扥扦执扨扩扪扫扬扟攰收攷旨早旪旫旬旭旮旯曲曳㬰有朱朲朳朴朵朶朷朸朹机朻朼朽朾朿杀杁杂权㭁次欢
此死毎毕氒氖気氘氼汆汊汋汌汍汎汏汐汑汒汓汔汕汗汘汙汚汛汜汝江池污汢汣汤汷𬇕灮灯灰灱灲灳爷牝牞牟犱犲犳犴犵犷犸𤜥玎玏玐玑㺨㺩㺪甪甶百癿⺮礼穵竹米糸糹纡红纣纤纥约级纨纩纪纫𬘓缶网羊𦍋⺶𦍌羽老考而耒耳聿
肉肋肌肍肎臣自至臼𦥑舌舛舟艮色艸艻艼艽艾艿芀芁节虍虫血行衣襾西覀观讲讳讴讵讶讷许讹论讻讼讽设访诀𬣞贞负贠赱轨辸边辺辻込辽﨤邔邖邗邘邙邚邛邜邝𨙸钆钇闫闬闭问闯阠阡阢阣阤页饦饧驮驯驰齐丣两严丽𠀡串𠁨乕
乱乲亊𠄘亜亨亩亪伭伮伯估伱伲伳伴伵伶伷伸伹伺伻似伽伾伿佀佁佂佃佄佅但佇佈佉佊佋位低住佐佑佒体佔何佖佗佘余佚佛作佝佞佟你佡佢佣佥佦佧佨㑆㑇𠇲克兌免兎兏児兑㒳兵冏冝况冶冷冸冹冺冻㓈凬刜初刞刟删刡刢刣判
別刦刧刨利刪别刬刭㓟助努劫劬劭劮劯劰励劲労劳匉𠣕匣匤匥㔰医㔷卣卤卲即却卵厎厏厐厑县叓吘吙吚君吜吝吞吟吠吡吢吣吤吥否吧吨吩吪含听吭吮启吰吱吲吳吴吵吶吷吸吹吺吻吼吽吾吿呀呁呂呃呄呅呆呇呈呉告呋呌呍呎呏
呐呑呒呓呔呕呖呗员呙呚呛呜㕭㕮㕰㕲𠯋𠯢𠯫𠯻𠯿囤囥囦囧囨囩囪囫囬园囮囯困囱囲図围囵圻圼圽圾圿址坁坂坃坄坅坆均坈坉坊坋坌坍坎坏坐坑坒坓坔坕坖块坘坙坚坛坜坝坞坟坠㘩㘫㘭㘮㘰𡉼𫭟𫭢壯声壱売壳夆夋夽夾夿奀奁
奂妉妊妋妌妎妏妐妑妒妓妔妕妖妗妘妙妚妛妜妝妞妟妠妡妢妣妤妥妦妧妨妩妪妫㚪㚬𡛀𡛁𡛂𡛓𡛕孚孛孜孝孞宊宋完宍宎宏宐宑宒寽対寿尨尩尪尫尬尾尿局屁层屃岄岅岆岇岈岉岊岋岌岎岏岐岑岒岓岔岕岖岗岘岙岚岛岜𡵓𡵞𫵷岍
巠巫巵帉帊帋希帍帎帏帐㠷㠸㠹㠻庇庈庉床庋庌庍庎序庐庑庒库应廷弃弄弅弝弞弟张𢎽𫸩形彣彤彶彷彸役彺彻鿈鿉𢓉𢓌忌忍忎忐忑忒志忘応㤀忟忡忣忤忦忧忨忪快忬忭忮忯忰忱忲忳忴忶忷忸忹忺忻忼忾怀怃怄怅怆㤈我戒戓𢦓
戺戻戼扭扮扯扰扱扲扳扴扵扶扷批扺扻扼扽找技抁抂抃抄抅抆抇抈抉把抋抌抍抎抏抐抑抒抓抔投抖抗折抙抚抛抜抝択抟抠抡抢抣护报㧐㧑扸攸改攺攻攼𢻯斈斘旰旱旲旳旴旵时旷旸更曵杄杅杆杇杈杉杊杋杌杍李杏材村杒杓杔杕
杖杗杘杙杚杛杜杝杞束杠条杢杣杤来杦杧杨杩极㭂㭃㭄㭅㭆𣏌欤步㱐歼𣧂每毐𣫮毜毝氙氚求汖汞汥汦汧汨汩汪汫汭汮汯汰汱汲汳汴汵汶汸汹決汻汼汽汾汿沁沂沃沄沅沆沇沈沉沋沌沍沎沏沐沑沒沔沕沖沘沙沚沛沜沞沟沠没沢沣
沤沥沦沧沨沩沪㳇𣲗𣲘𣲙𣲚𣲛𬇙灴灵灶灷灸灹灺灻灼災灾灿炀㶥牠牡牢牣牤𤘘状犹犺犻犼犽犾犿狁狂狃狄狅狆狇狈𤜯玒玓玔玕玖玗玘玙玚玛㺭𤣰𤣱𤣲𤣳瓧甫甬男甸甹町甼㽕疓疔疕疖疗皀皁皂皃盀盁盯矣矴矵矶𥐙礽禿秀私秂秃
䄦究穷竌竍糺系纶纬纭纮纯纰纱纲纳纴纵纷纸纹纺纻纼纽纾𬘘罕耴肐肑肒肓肔肕肖肗肘肙肚肛肜肝肞肟肠臫良芃芄芅芆芇芈芉芊芋芌芍芎芏芐芑芒芓芕芖芗𦬅𦬊虬𧘌見觃角⻆𧢲言訁证诂诃评诅识诇诈诉诊诋诌词诎诏诐译诒𬣡
谷豆豕豸貝贡财赤走足⻊身車轩轪轫𫐄辛辰辵巡达辿迀迁迂迃迄迅迆过迈迉𨑨𨑬𨑳邑邞邟邠邡邢那邤邥邦邧邨邩邪邬𨚕𨚪𨚫酉釆里针钉钊钋钌闰闱闲闳间闵闶闷阥阦阧阨阩阪阫阬阭阮阯阰阱防阳阴阵阶𨸶𨸹韧飏饨饩饪饫饬饭
饮驱驲驳驴𫘜𫘝鸠鸡麦龟並丧丳乖乳乴乵乶乷乸𠃮事些亝亞亟享京㐭佌佩佪佫佬佭佮佯佰佱佲佳佴併佶佷佸佹佺佻佼佽佾使侀侁侂侃侄侅來侇侈侉侊例侌侍侎侏侐侑侒侓侔侕侖侗侘侙侚供侜依侞侟侠価侢侣侤侥侦侧侨侩侪侫
侬侭鿇㑊㑌㑐𠈄𠈌𠈔兒兓兔兕兖𠒇兩其具典冐冞冼冽冾冿净𠗃凭凮凯函刮刯到刱刲刳刴刵制刷券刹刺刻刼刽刾刿剀剁剂㓤㓦𠜎剆劵劶劷劸効劺劻劼劽劾势㔚勆匊匋匌𠤖匦匼卑卒卓協单卖卥卦卧𠧧卶卷卸卹卺厒厓厔厕𠩐叀叁参
叔叕取受变呝呞呟呠呡呢呣呤呥呦呧周呩呪呫呬呭呮呯呱味呴呵呶呷呸呹呺呻呼命呾呿咀咁咂咃咄咅咆咇咈咉咊咋和咍咎咏咐咑咒咓咔咕咖咗咘咙咚咛咜咝㕷㕸𠰋𠰍𠰠𠰴𠰺𠰻𠱁𠱂𠱃囶囷囸囹固囻囼国图㘠坡坢坣坤坥坦坧坨坩
坪坫坬坭坮坯坰坱坲坳坴坵坶坷坸坹坺坻坼坽坾坿垀垁垂垃垄垅垆垇垈垉垊㘱㘲㘳㘴㘵𡊨𡊩𡊰备夌夜夝奃奄奅奆奇奈奉奋奌奍奔𡘊妬妭妮妯妰妱妲妳妴妵妶妷妸妹妺妻妼妽妾妿姀姁姂姃姄姅姆姇姈姉姊始姌姍姎姏姐姑姒姓委
姖姗㚰㚱㚵㚹㚼㛁𡛟𡛦𡛧𡛨𡛺𡛻𡛼𡛾𫰛孟孠孡孢季孤孥学孧㝀𡥘宓宔宕宖宗官宙定宛宜宝实実宠审𡧛尀尙尚尭屄居屆屇屈屉届岝岞岟岠岡岢岣岤岥岦岧岨岩岪岫岬岭岮岯岰岱岲岳岴岵岶岷岸岹岺岻岼岽岾岿峀峁峂峃峄峅㞹㞾
㟃𡶐巶㠰帑帒帓帔帕帖帗帘帙帚帛帜𢁾幷幸庘底庖店庙庚府庝庞废㡵延廸廹㢠弆弡弢弣弤弥弦弧弨弩弪𢏐彔录㣌𢒋彼彽彾彿往征徂徃径忝忞忠忢忥忩念忽忿态怂怇怈怉怊怋怌怍怏怐怑怓怔怕怖怗怙怚怛怜怞怟怡怢怦性怩怪怫
怬怭怮怯怰怲怳怴怵怶怺怽怾怿㤔㤘𢘛𢘜𢘫戔戕或戗戽戾房所承抦抧抨抩抪披抬抭抮抯抰抱抲抳抴抵抶抷抸抹抺抻押抽抾抿拀拁拂拃拄担拆拇拈拉拊拋拌拍拎拐拑拒拓拔拕拖拗拘拙拚招拝拞拟拠拡拢拣拤拥拦拧拨择㧔㧕㧙㧚
㧜㧝㧞㧟𢫏𢫕攽放㪁斉𣁄斦斧斨斩斺斻於𣃚旹旺旻旼旽旾旿昀昁昂昃昄昅昆昇昈昉昊昋昌昍明昏昐昑昒易昔昕昖昗昘昙𬀩𬀪曶朊朋朌服㬳杪杫杬杭杮杯杰東杲杳杴杵杶杷杸杹杺杻杼杽松板枀枂枃构枅枆枇枈枉枊枋枌枍枎枏析
枑枒枓枔枕枖林枘枙枚枛果枝枞枟枠枡枢枣枤枥枦枧枨枩枪枫枬枭㭇㭈㭉㭊㭋㭌㭍㭎㭏㭐𣏞𣏦𣏴𣏵𣏹𣏺𣏾𣐀柹欣欥欦欧㰠武歧歨歩歽歾歿殀殁殴毑毞毟氓氛氜氝汬沀沊沓沝沫沬沭沮沰沱沲河沴沵沶沷沸油沺治沼沽沾沿泀況泂
泃泄泅泆泇泈泊泋泌泍泎泏泐泑泒泓泔法泖泗泘泙泛泜泝泞泟泠泡波泣泤泥泦泧注泩泪泫泬泭泮泯泱泲泳泷泸泹泺泻泼泽泾㳋㳍㳑𣲵𣲷𣳇𣳈𣳉洰炇炁炂炃炄炅炆炈炉炊炋炌炍炎炏炐炑炒炓炔炕炖炗炘炙炚炛炜炝炞𤆣𤆤𤆥𤆬𤆵
𬉼爬爭爸牀版牥牦牧牨物牪牫牬㸯𤘪狀狉狋狌狍狎狏狐狑狒狓狔狕狖狗狘狙狚狛狜狝狞㹢㹩玜玝玞玟玠玡玢玣玤玥玦玧玨玩玪玫玬玭玮环现玱𤣻𤣿𤤀𤤁𤤌瓝瓨瓩甙画甽甾甿畀畁畂畃畄畅疌疘疙疚疛疜疝疞疟疠疡癷的皯盂盰盱
盲盳直盵矤知矷矸矹矺矻矼矽矾矿砀码𥐥社礿祀祁祂祃秄秅秆秇秈秉秊穸穹空穻䆒竎竏䇄竺竻籴籵籶糼糽糾糿䊵线绀绁绂练组绅细织终绉绊绋绌绍绎经绐缷罔罖罗罙羋羌者耓耵肃肏股肢肣肤肥肦肧肨肩肪肫肬肭肮肯肰肱育肳
肴肵肶肷肸肹肺肻肼肽肾肿胀胁䏙䏝臤臥臽臾舍舎舏舠艰芘芙芚芛芜芝芞芟芠芡芢芣芤芥芦芧芨芩芪芫芬芭芮芯芰花芲芳芴芵芶芷芸芹芺芼芽芾苀苁苂苃苄苅苆苇苈苉苊苋苌苍苎苏茾䒟䒠䒢𦬓𦬕𦬣𦬨𫇭芿虎虏虭虮虯虰虱虲𧗠
补表规觅诓诔试诖诗诘诙诚诛诜话诞诟诠诡询诣诤该详诧诨诩𫍣𬣳豖责贤败账货质贩贪贫贬购贮贯軋转轭轮软轰𬨂迊迋迌迍迎迏运近迒迓返迕迖迗还这迚进远违连迟迬𨒂邭邮邯邰邱邲邳邴邵邶邷邸邹邺邻䢺𨚲𨚼采金釒钍钎钏
钐钑钒钓钔钕钖钗𬬩長镸門闸闹阜𨸏阷阸阹阺阻阼阽阾阿陀陁陂陃附际陆陇陈陉隶隹⻗雨靑青非靣顶顷饯饰饱饲饳饴驵驶驷驸驹驺驻驼驽驾驿骀𫠊𬳵𬳶鱼鸢鸣鸤黾鼡齿临举乗乹乺乻乼㐠亭亮亯亰亱亲侮侯侰侱侲侳侴侵侶侷侸
侹侺侻侼侽侾便俀俁係促俄俅俆俇俈俉俊俋俌俍俎俏俐俑俒俓俔俕俖俗俘俙俚俛俜保俞俟俠信俢俣俤俥俦俧俨俩俪俫俬俭𠈹𠉛兗兘兙𠒎兪兹养冑冒冟冠凁凂凃𠗊𠗐𠗕凾剃剄剅則剈剉削剋剌前剎剏剐剑勀勁勂勃勄勅勇勈勉勊勋
匍匧匨匩匽南単卻卼卽厖厗厘厙厚厛叙叚叛叜叝呰呲咞咟咠咡咢咣咤咥咦咧咨咩咪咫咬咭咮咯咰咱咲咳咴咵咶咷咸咹咺咻咼咽咾咿哀品哂哃哄哅哆哇哈哉哊哋哌响哎哏哐哑哒哓哔哕哖哗哘哙哚哛哜哝哞哟㖄𠱓𠱥𠱷𠱸𠱼𠲍𠲖𠲜
囿圀㘢𡇙型垌垍垎垏垐垑垒垓垔垕垖垗垘垙垚垛垜垝垞垟垠垡垢垣垤垥垦垧垨垩垪垫垬垭垮垯垰垱垲垳垴垵城鿍㘶㘷㘸㘹㘻㘾𡋣壴壵夈変复奎奏奐契奒奓奕奖㚚𡘓𡘙姕妍姘姙姚姛姜姝姞姟姠姡姢姣姤姥姦姧姨姩姪姫姭姮姯姰
姱姲姳姴姵姶姷姸姹姺姻姼姽姾姿娀威娂娃娅娆娇娈㛃㛄㛅㛇㛈𡜍𡜐𡜦娍孨孩孪客宣室宥宦宨宩宪宫𡧳封専将尛尜尝尮尯屋屌屍屎屏峆峇峈峉峊峋峌峍峎峏峐峑峒峓峔峕峖峗峘峙峚峛峜峝峞峟峠峡峢峣峤峥峦峧𡶶𡶺𡷊𡷑𪨰峸
巬巭巷巸巹巺巻帝帞帟帠帡帢帣帤帥带帧𢂚幽庛庠庡庢庣庤庥度𢈈庰建廻廼𢌡𢌥弇弈弫弬弭弮弯𢏗彖彥彦待徆徇很徉徊律後徍徔怎怒怘思怠怣怤急怨怱怷怸怹总怼恀恂恃恄恅恆恇恈恉恊恌恍恎恑恒恓恔恗恘恛恜恞恟恠恡恢恤
恦恨恪恫恬恮恰恱恲恸恹恺恻恼恽㤢㤦㤧㤭𢙨战扁扂扃拏拜㧘拪拫括拭拮拯拰拱拴拵拶拷拸拹拺拻拼拽拾挀持挂挃挄挅挆指按挊挋挌挍挎挏挑挒挓挔挕挖挗挘挜挝挞挟挠挡挢挣挤挥挦挧㧡㧢㧥㧦𢫦𢫨𢬎𢬢攱政敀敁敂敃敄故㪃
㪄㪅斪斫㪼㪽施斾斿旀㫆既昚昛昜昝昞星映昡昢昣昤春昦昧昨昩昪昫昬昭昮是昰昱昲昳昴昵昶昷昸昹昺昻昼昽显昿㫞㫠𣅽𣆂曷朎朏朐枮枯枰枱枲枳枴枵架枷枸枹枺枻枼枾枿柀柁柂柃柄柅柆柇柈柉柊柋柌柍柎柏某柑柒染柔柕柖
柗柘柙柚柛柜柝柞柟柠柢柣柤查柦柧柨柩柪柫柬柭柮柯柰柱柲柳柵柶柷柸柺査柼柽柾柿栀栁栂栃栄栅栆标栈栉栊栋栌栍栎栏栐树㭑㭒㭓㭔㭕㭖㭗桒欨欩欪㰦歪歫㱔殂殃殄殅殆殇段殶毒毖毗毘㲋毠毡𣭚氞氟氠氡氢沗沯泉泴泶泚
泿洀洁洂洃洄洅洆洇洈洉洊洋洌洎洏洐洑洒洓洔洕洗洘洙洚洛洝洞洟洠洡洢洣洤津洦洧洨洩洪洫洬洭洮洱洲洳洴洵洶洷洸洹洺活洼洽派洿浀流浂浃浄浅浇浈浉浊测浌浍济浏浐浑浒浓浔浕㳖㳘㳚㳜𣳼𣳽𣳾𣳿炟炠炡炢炣炤炥炦炧
炨炩炪炫炬炭炮炯炰炱炲炳炴炵炶炷炸点為炻炼炽炾炿烀烁烂烃㶭㶲𤇍𤇢爮爯爰𤔅爼牁牉牊牭牮牯牰牱牲牳牴牵狊狟狠狡狢狣狤狥狦狧狨狩狪狫独狭狮狯狰狱狲𤞏玅㺱玲玳玴玵玶玷玸玹玻玽玾玿珀珁珂珃珄珅珆珇珈珉珊珋珌
珍珎珏珐珑𤤖𤤗𤤙𤤯𤤳𬍛瓪瓫瓬瓭瓮瓯瓰瓱瓲甚甠甭甮畆畇畈畉畊畋界畍畎畏畐畑畒畓㽘㽙疢疣疤疥疦疧疨疩疪疫疬疭疮疯疺㽼癸癹発皅皆皇皈盃盄盅盆盇盈盶盷相盹盺盻盼盽盾盿眀省眂眃眄眅眆眇眈眉眊看県眍䀝𥄫𪾢矜矦
矧矨泵砂砃砄砅砆砇砈砉砊砋砌砍砎砏砐砑砒砓研砕砖砗砘砙砚砛砜䂚𥐯𥐰祄祅祆祇祈祉祊祋祌祍祎视䄀𥘵禹禺秋秌种秎秏秐科秒秓秔秕秖秗䄱䄲𥝲穼穽穾穿窀突窂窃䆕𥥆竐竑竒竓竔竕竖竗竼竽竾竿笀笁笂笃𥫩娄籷籸籹籺类
籼籽籾籿粀粁粂䉺紀紁紂紃約紅紆紇紈紉䊶䊷䊹绑绒结绔绕绖绗绘给绚绛络绝绞统𬘡𬘩缸䍂罘罚羍美羏羑𦍑羾羿𦏵𦏸耇耍耎耏耐耑耔耶耷朑胂胃胄胅胆胇胈胉胊胋背胍胎胏胐胑胒胓胕胖胗胘胙胚胛胜胝胞胟胠胡胢胣胤胥胦胧
胨胩胪胫脉䏟䏡𦙶致臿舡舢舣舤芔苐苑苒苓苔苕苖苗苘苙苚苛苜苝苞苟苠苡苢苣苤若苦苧苨苩苪苫苬苭苮苯苰英苲苳苴苵苶苷苸苹苺苻苼苽苾苿茀茁茂范茄茅茆茇茉茊茋茌茍茎茏茐茑茓茔茕𦭐𦭑𦭒𦭓𦭛𦭜茺𬜬虐虳虴虵虶虷虸
虹虺虻虼虽虾虿蚀蚁蚂蚃衁衂䘏衍衎𧗤衦衧衩衪衫衬𧘲𧘹要覌觇览觉觓觔訂訃訄訅訆訇計䚮诪诫诬语诮误诰诱诲诳说诵诶貞貟負贰贱贲贳贴贵贶贷贸费贺贻赲赳赴赵龪趴軌軍轱轲轳轴轵轶轷轸轹轺轻迠迡迢迣迤迥迦迧迨迩迪
迫迭迮迯述迱迲迳邼邽邾邿郀郁郂郃郄郅郆郇郈郉郊郋郍郎郏郐郑郓䢼𬩽郕𨛘𨛦郱酊酋重釓釔钘钙钚钛钜钝钞钟钠钡钢钣钤钥钦钧钨钩钪钫钬钭钮钯𫓧𬬭𬬮𬬱閁閂闺闻闼闽闾闿阀阁阂陊陋陌降陎陏限陑陒陓陔陕𬮿𬯀𨹥𨹦面革
韋韨韭音頁顸项顺须風飐飑飒飛食飠⻞饵饶饷饸饹饺饻饼首𩠐香骁骂骃骄骅骆骇骈骉𬳽⻣鳬鸥鸦鸧鸨鸩䶮𠀾丵乘乽亳修俯俰俱俲俳俴俵俶俷俸俹俺俻俼俽俾俿倀倁倂倃倄倅倆倇倈倉倊個倌倍倎倏倐們倒倓倔倕倖倗倘候倚倛倜
倝倞借倠倡倢倣値倥倦倧倨倩倪倫倬倭倮倯倰倱倲倳倴倵倶倷倸倹债值倽倾倿㑥㑦𠉴𠉵𠊙𠊞𠊠𫢸倻偖党兛𠒑𠒒兺兼冓冔冡冢冣冤冥冦冧𠖎凄凅准凇凈凉凊凋凌凍凎𠗟𠗠𠙖剒剓剔剕剖剗剘剙剚剛剜剝剞剟剠剡剢剣剤剥剦剧𠜱勌
勍勎勏勐勑𠡳𪟝匎匪匫龨卿厜厝厞原虒𠩯叞叟哠員哢哣哤哥哦哧哨哩哪哫哬哭哮哯哰哱哲哳哴哵哶哷哸哹哺哻哼哽哾哿唀唁唂唃唄唅唆唇唈唉唊唋唍唎唏唐唑唒唓唔唕唖唗唘唙唚唛唜唝唞唟唠唡唢唣唤唥唦唧㖗㖘𠲵𠲸𠳏𠳐𠳓
𠳔𠳕𠳖𠳝𠳭𠳿𠴕圁圂圃圄圅圆㘣垶垷垸垹垺垻垼垽垾垿埀埁埂埃埄埅埆埇埈埉埊埋埌埍埏埐埑埒埓埔埕埖埗埘埙埚埛𡋾𡌂𡌃𡌄𡌅﨏𫭼堲壶夎夏夞𡖖奊套奘奙奚姬娉娊娋娌娎娏娐娑娒娓娔娕娖娗娘娙娚娛娜娝娞娟娠娡娢娣娤娥
娦娧娨娩娪娭娮娯娰娱娲娳娴㛎㛑㛓㛔㛖㛚㛝㛡㛢𡜺𡜻𡜼𡝗孫孬孭㝃𡥪宧宬宭宮宯宰宱宲害宴宵家宷宸容宺宻宼宽宾尃射尅屐屑屒屓屔展屖屗屘㞗𡱰峨峩峪峫峬峭峮峯峰峱峲峳峴峵島峷峹峺峻峼峽峾峿崀崁崂崃崄崅㟖𡷫𡷹𪨶
差㠫巼帨帩帪師帬席帮帯帰帱𢃇𢇁𢇃座庨庩庪庫庬庭庮庯廽弉弰弱弲弳彧彨𢒑徎徏徐徑徒従徕𢓭恁恋恏恐恕恖恙恚恝恣恥恧恩恭息恳恴恵恶恷㤠㤫恾悀悁悂悃悄悅悇悈悋悌悍悎悏悑悒悓悔悕悖悗悙悚悛悜悝悞悟悢悦悧悩悭悮
悯㤱㤳㤴㤶㤷㤸㤹𢙺𢚖𢚘戙扄扅扆扇拲拳拿挈挐挙挚挛㧬挨挩挪挫挬挭挮振挰挱挳挴挵挶挷挸挹挺挼挽挾挿捀捁捂捃捄捅捆捇捈捉捊捋捌捍捎捏捐捑捒捓捔捕捖捗捘捙捚捛捜捝捞损捠捡换捣捤㧸𢬿𢭃𢭪揤敆敇效敉敊敋敌㪇㪈
㪉𣁋斊斋料斚旁旂旃旄旅旆旊㫉晀晁時晃晄晅晆晇晈晉晊晋晌晍晎晏晐晑晒晓晔晕晖𣆤𣆥晟晠書曺曻朒朓朔朕㬴㬵朗枽柡柴栒栓栔栕栖栗栘栙栚栛栜栝栞栟栠校栢栣栤栥栦栧栨栩株栫栬栭栮栯栰栱栲栳栴栵栶样核根栺栻格栽
栾栿桀桁桂桃桄桅框桇案桉桊桋桌桍桎桏桐桑桓桔桕桖桗桘桙桚桛桜桝桞桟桠桡桢档桤桥桦桧桨桩桪㭘㭙㭚㭛㭜㭝㭞㭟㭠㭡㭢㭣㭤㭥㭦㭧𣐿𣑐𣑯𣑲𬂩欫欬欭欮欯欰欱欴歬歭殈殉殊残㱡殷毙毢毣毤毥毦毧毨毩毪氣氤氥氦氧氨氩
泰洜洯浆洍洖浖浗浘浙浚浛浜浝浞浟浠浡浢浣浤浥浦浧浨浩浪浫浬浭浮浯浰浱浲浳浴浵浶海浸浹浺浻浼浽浾浿涀涁涂涃涄涅涆涇消涉涊涋涌涍涏涐涑涒涓涔涕涖涗涘涚涛涜涝涞涟涠涡涢涣涤涥润涧涨涩㳯𣵀𣵛烄烅烆烇烈烉烊
烋烌烍烎烏烐烑烒烓烔烕烖烗烘烙烚烛烜烝烞烟烠烡烢烣烤烥烦烧烨烩烪烫烬热烮㶴𤇼𤈛𬊈爱爹牂𤕸㸠𬌗牶牷牸特牺狳狴狵狶狷狸狹狺狻狼狽狾猀猁猂猃㹴玆玺玼㺸𤤴珒珓珔珕珖珗珘珙珚珛珜珝珞珟珠珡珢珣珤珥珦珧珨珩珪
珫珬班珮珯珰珱珲琉㺿㻂㻇𤤾𤤿𤥀𤥁𤥂𤥃𬍤珹瓞瓟瓳瓴瓵甡畔畕畖畗畘留畚畛畜畝畞畟疍疰疱疲疳疴疶疷疸疹疻疼疽疾疿痀痁痂痃痄病痆症痈痉畠皊皋皌皍𤽜皰皱㿭盉益盋盌盍盎盏盐监䀀𥁒眎眏眐眑眒眓眔眕眖眗眘眙眚眛眜
眝眞真眠眡眢眣眤眧眨眩眪眫眬眿䀦𥅈矝矩砝砞砟砠砡砢砣砤砥砧砨砩砪砫砬砭砮砯砰砱砲砳破砵砶砷砸砹砺砻砼砽砾砿础硁䂨𥑆𥑬𥑮𬒈祏祐祑祒祓祔祕祖祗祘祙祚祛祜祝神祟祠祢䄂䄃𥙑𥜽秘秙秚秛秜秝秞租秠秡秢秣秤秥秦
秧秨秩秪秫秬秭秮积称窄窅窆窇窈窉窊窋窌窍窎𥥖竘站竚竛竜竝竞䇊笅笆笇笈笉笊笋笌笍笎笏笐笑笒笓笔笕䇗䇛笄粃粄粅粆粇粈粉粊粋粌粍粎粏粐粑紊紋紌納紎紏紐紑紒紓純紕紖紗紘紙級紛紜紝紞紟素紡索紣紤紥紦紧䊼绠绡
绢绣绤绥绦继绨𫄧𫄨𬘫缹缺缼䍃罛罜罝罞罟罠罡罢羐羒羓羔羖羗羘羙翀翁翂翃翄翅翆𦐂𦐐𦐑𦐒耄耆耊耕耖耗耘耙耸耹耺耻耼耽耾耿聀聁聂肁肂胭胮胯胰胱胲胳胴胵胶胷胸胹胺胻胼能胿脀脁脂脃脄脅脆脇脈脊脋脌脍脎脏脐脑脒
脓䏭𦚯𦚱𦚵臬臭𦤹舀舁舐舥舦舧舨舩航舫般舭舮舯舰舱䑥艳芻茈茖茗茘茙茚茛茜茞茟茠茡茢茤茥茦茧茨茩茪茫茬茭茮茯茰茱茲茳茴茵茶茷茸茹茼茽茿荀荁荂荃荄荅荇荈草荊荋荌荍荎荏荐荑荒荔荕荖荗荘荚荛荜荝荞荟荠荡荢荣
荤荥荦荧荨荩荪荬荭荮药䒰䒷䒽䓀𦭵𦮂𦮖𦮗𦮝𦮳𬜯荓虑虓虔蚄蚅蚆蚇蚉蚊蚋蚌蚍蚎蚏蚐蚑蚒蚓蚔蚕蚖蚗蚘蚙蚚蚛蚜蚝蚞蚟蚠蚡蚢蚣蚤蚥蚦蚧蚨蚩蚪蚬衃衄衏䘕衭衮衯衰衱衲衳衴衵衶衷衸衹衺衻衼衽衾衿袀袁袂袃袄袅袆袇𧙕𧙖
𧙗覍覎觊訉訊訋訌訍討訏訐訑訒訓訔訕訖託記訙訚𧥧请诸诹诺读诼诽课诿谀谁谂调谄谅谆谇谈谉谊谸豇豈豗豹豺豻財貢貣貤𧴯贼贽贾贿赀赁赂赃资赅赆赶起赸䞘趵趶趷趸䟕躬軎軏軐軑軒軓軔軕轼载轾轿辀辁辂较𨐈辱迴迵迶迷
迸迹迺迻迼追迾迿退送适逃逄逅逆逇逈选逊邕郖郗郘郙郚郛郜郝郞郟郠郡郢郣郤郥郦郧𫑡酌配酎酏酐酑酒釕釖釗釘釙釚釛釜針釞釟釠釡釢钰钱钲钳钴钵钶钷钸钹钺钻钼钽钾钿铀铁铂铃铄铅铆铇铈铉铊铋铌铍铎𬬸𬬹𬬻𬬿𬭁閃閄
閅𨳊𨳍阃阄阅阆陖陗陘陙陛陜陝陞陟陠陡院陣除陥陦陧陨险陚𨺗𨺙隺隻隼隽难顼顽顾顿颀颁颂颃预𫠆飢飣飤饽饾饿馀馁馂𫗧馬骊骋验骍骎骏𬳿骨高髟鬥鬯鬲鬼鱽鸪鸫鸬鸭鸮鸯鸰鸱鸲鸳鸴鸵鸶龀乾乿亀㐢𠅤偀偁偂偃偄偅偆假偈
偉偊偋偌偍偎偏偐偑偒偓偔偕偗偘偙做偛停偝偞偟偠偡偢偣偤健偦偧偩偪偫偬偭偮偯偰偱偲偳側偵偶偷偸偹偺偻偼偽偾偿㑤𠊷𠊿𠋀𠋥兜兝兞兽冕㒼冨减凐凑𠗫凰剨剪剫剬剭剮副剰剱剶𠝹勒勓勔動勖勘務勚㔠匏匐匓匘匙㔭匬匭
匮㔱匾匿區卙卨卾厠厡厢厣厩參叄唌唨唩唪唫唬唭售唯唰唱唲唳唴唵唶唷唸唹唺唻唼唽唾唿啀啁啂啃啄啅商啇啈啉啊啋啌啍啎問啐啑啒啓啔啕啖啗啘啚啛啜啝啞啠啡啢啣啤啥啦啧啨啩啪啬啭啮啯啰啱啲啳啴啵啶啷啸啹㖡㖥㖭
𠴨𠴱𠴲𠵆𠵇𠵈𠵉𠵌𠵍𠵎𠵯𠵱𠵴𠵼𠵾𠵿𠶖𠶜𠶧𠶲啫営圇圈圉圊國圏埜埝埞域埠埡埢埣埤埥埦埧埨埩埫埬埭埮埯埰埱埲埳埴埵埶執埸培基埻埼埽埾埿堀堁堂堃堄堅堆堇堈堉堊堋堌堍堎堏堐堑堒堓堔㙇㙈㙉㙍𡌶𡌺𫮃埪堕堵壷壸够夠
奛奜奝奞奟𡘾奢娫娽娬娵娶娷娸娹娺娻娼娾娿婀婁婂婃婄婅婆婇婈婉婊婋婌婍婎婏婐婑婒婓婔婕婖婗婘婙婚婛婜婝婞婟婠婡婢婣婤婥婦婧婨婩婪婫婬婭婮婯婰婱婲婳婴婵婶㛥㛦𡝬𡝭𡝮𡝯𡝰𡝱𡝳𡝴媎孮孯孰孲宿寀寁寂寃寄寅密
寇寈寉𡨭𡨴將專尉屙屚屛屜屝屠崆崇崈崉崊崋崌崍崎崏崐崑崒崓崔崕崖崗崘崙崚崛崜崝崞崟崠崡崢崣崤崥崦崧崨崩崪崫崬崭崮崯崰𡸜𡸣𡸷𡸽巢巣㠱帲帳帴帵帶帷常帹帺帻帼帾庱庲庳庴庵庶康庸庹庺庻庼庾弴張弶強弸弹𢏺彗彩
彫彬徖得徘徙徛徜徝從徟徠御徢徣𢔓𢔛徤恿悆悉悊悐悘悠悡患悤悥您悪悫悬㤰㤲㤵㤻悰悱悴悵悷悸悺悻悼悽悾悿惀惂惃情惆惇惈惊惋惍惏惐惓惔惕惗惘惙惚惛惜惝惞惟惤惦惧惨惬惭惮惯㤿㥄㥍𢛴𢛵𢛶𢜒𢜔𢜛𢜟戚戛戜戝扈挲挻
捥捦捧捨捩捪捫捬捭据捯捰捱捲捳捴捵捶捷捸捹捺捻捼捽捾捿掀掁掂掃掄掅掆掇授掉掊掋掍掎掏掐掑排掓掕掖掗掘掙掚掛掜掝掞掟掠採探掤接掦控推掩措掫掬掭掮掯掳掴掵掶掷掸掹掺掻掼掽㧻㧾㨀㨁㨂㨃㨄㨆𢯊𢯎掲啟敍敎敏
敐救敒敓敔敕敖敗敘教敚敛㪊㪋㪌㪍㪎敝斍斎斏斛斜斬断旇旈旉旋旌旍旎族㫋旣勗晗晘晙晚晛晜晝晞晡晢晣晤晥晦晧晨晩曽㫰㫲𣆳𣇈𣇉曹曼朖朘朙朚望㬶㬷桫桬桭桮桯桰桱桲桳桴桵桶桷桸桹桺桻桼桽桾桿梀梁梂梃梄梅梆梇梈
梉梊梋梌梍梎梏梐梑梒梓梔梕梖梗梘梙梚梛梜條梞梟梠梡梢梣梤梥梦梧梨梩梪梫梬梭梮梯械梱梲梳梵梶梷梸梹梺梻梼梽梾梿检棁棂㭨㭩㭪㭫㭬㭭㭮㭯㭰㭱㭲㭳㭴㭵㭷楖欲欳欵欶欷欸㰯殌殍殎殏殐殑殒殓㱢殸殹殺殻毫毬毭毮氪
氫𣱣涎㳫涙涪涫涬涭涮涯涰涱液涳涴涵涶涷涸涹涺涻涼涽涾涿淀淁淂淃淄淅淆淇淈淉淊淋淌淍淎淏淐淑淒淓淔淕淖淗淘淙淚淛淜淝淞淟淠淡淢淣淤淥淦淧淨淩淪淫淬淭淮淯淰深淲淳淴淵淶混淸淹淺添淽淿渀渁渂渄清渆渇済渉
渊渋渌渍渎渏渐渑渒渓渔渕渖渗渚湴㴀㴄𣵾𣶏𣶶𣶷𣶸𣶹𣶺𣶻𣶼𣶽𣷣𣷸𬇹烯烰烱烲烳烴烵烶烷烸烹烺烼烽烾烿焀焁焂焃焄焅焆焇焈焉焊焋焌焍焎焏焐焑焒焓焕焖焗焘㶿𤉋𤉖𤉙焔爽牻牼牽牾牿犁㸺㸼㸾㹀𤙥狿猄猅猇猈猉猊猍猎猏
猐猑猓猔猕猖猗猘猙猚猛猜猝猞猟猠猡猪率玈𬍡珳珴珵珶珸珺珻珼珽現珿琀琁琂球琄琅理琇琈琊琋琌琍琎琏琐琑琒琓㻊㻌㻐𤥢𤥣𤥴𤥵𤥶瓠㼎瓶瓷瓸㼦甛甜產産畡畢畣畤略畦畧畩異疵痊痋痌痍痎痏痐痑痒痓痔痕痖皉皎皏皐皑㿠
皲盒盓盔盕盖盗盘盛䀁䀂眥眦眭眮眯眰眱眲眳眴眵眶眷眸眹眺眻眼眽眾睁𥅽𥅾着矪矫砦硂硃硄硅硆硇硈硉硊硋硌硍硎硏硐硑硒硓硔硕硖硗硘硙硚硛鿎䂮𥒚祡祣祤祥祧票祩祪祫祬祭祮祯䄄視𥚃离秱秲秳秴秵秶秷秸秹秺移秼秽秾
稆䄻䅁䅃䅅窏窐窑窒窓窔窕窚竡笖笗笘笙笚笛笜笝笞笟笠笡笢笣笤笥符笧笨笩笪笫第笭笮笯笰笱笲笳笴笵笶笷笸笹笺笻笼笽笾畨粒粓粔粕粖粗粘粙粚粛粜粝粣𥹉紨紩紬紭紮累細紱紲紳紴紵紶紷紸紹紺紻紼紽紾紿絀絁終絃組絅
絆絇絈絉絊絋経𥿡𥿢䌹绩绪绫绬续绮绯绰绱绲绳维绵绶绷绸绹绺绻综绽绾绿缀缁𫟅𬘬𬘭𬘯缻缽䍄䍅罣羕羚羛羜羝羞羟翇翈翉翊翋翌翍翎翏翐翑習䎃耈耉耚耛耜耝耞耟聃聄聅聆聇聈聉聊聋职聍胬脕脖脗脘脙脚脛脜脝脞脟脡脢脣
脤脥脦脧脨脩脪脫脬脭脮脯脰脱脲脳脴脵脶脷脸䏰䏲𦛚𦛨𦛼𦤎舂舑舲舳舴舵舶舷舸船舺舻𦨭𦨮艴荙茝茣荫荰荱荲荳荴荵荶荷荸荹荺荻荼荽荾荿莀莁莂莃莄莅莆莇莈莉莊莋莌莍莎莏莐莑莒莓莔莕莖莗莘莙莛莜莝莞莟莠莡莢莣莤
莥莦莧莨莩莪莫莬莮莯莰莱莲莳莴莵莶获莸莹莺莼莽鿊䓃䓅䓎䓖𦯀𦯷𦰡莭彪處虖虗虘虙虚蚫蚭蚮蚯蚰蚱蚲蚳蚴蚵蚶蚷蚸蚹蚺蚻蚼蚽蚾蚿蛀蛁蛂蛃蛄蛅蛆蛇蛈蛉蛊蛋蛌蛍蛎蛏䖦𧉧𧊀𧊅𧊋𬟽﨡衅衐衑衒術衔袈袉袊袋袌袍袎袏袐袑
袒袓袔袕袖袗袘袙袚袛袜袝袞袟袠袡袢袣袤袥袦袧袨袩袪被袬袭袮袰䘦袯覂規覐覑覒覓覔䙺觋觕觖觗觘觙𧣈訛訜訝訞訟訠訡訢訣訤訥訦訧訨訩訪訫訬設訮訯訰許訲訳䚻䚼𧥺䜣谋谌谍谎谏谐谑谒谓谔谕谖谗谘谙谚谛谜谝谞𫍯𫍲
𬤇𬤊谹谺谻豉豘豙豚豛豜豝䝆䝇䝈豼豽䝙貥貦貧貨販貪貫責貭貮赇赈赉赊赥赦赧赹赺赻赼赽赾赿䞛﨣趹趺趻趽趾趿跀跁跂跃跄躭躮躯𨈘𨈚軖軗軘軙軚軛軜軝軞軟軠軡転軣䡆䡇䡈䡉䡊𨋍辄辅辆逋逌逍逎透逐逑递逓途逕逖逗逘這
通逛逜逝逞速造逡逢連逤逥逦逧䢛𨔁邫郔部郩郪郫郬郭郮郯郰郲郳郴郷郸都𨜏𨜓酓酔酕酖酗酘酙酚酛酜酝酞䣭𨠄釈野釣釤釥釦釧釨釩釪釫釬釭釮釯釰釱釲釳釴釵釶釷釸釹釺釻釼𨥈𨥉铏铐铑铒铓铔铕铖铗铘铙铚铛铜铝铞铟铠铡
铢铣铤铥铦铧铨铩铪铫铬铭铮铯铰铱铲铳铴铵银铷𫓯𫟹镹镺閆閇閈閉閊𨳒阇阈阉阊阋阌阍阎阏阐陪陫陬陭陮陯陰陱陳陴陵陶陷陸陹険陼𨺬𨺲𨺳隿雀雩雪雫𩁹𩇕𩇫靪竟章頂頃頄颅领颇颈𬱖飡飥飦馃馄馅馆馗骐骑骒骓骔骕骖𫘦𫘧
𬴂髙魚鱾鳥鸷鸸鸹鸺鸻鸼鸽鸾鸿鹵鹿麥麸麻黒龁龚龛𠁆亁亴亵偨傀傁傂傃傄傅傆傇傈傉傊傋傌傍傎傏傐傑傒傓傔傕傖傗傘備傚傛傜傝傞傟傠傡傢傣傤傥傦傧储傩㑳㑺𠌊𠌥兟兠𠒣最凒凓凔凕凖凱凲凿剩割剳剴創㓻勛勜勝勞匑匒
𠤣𠥔㔸博厤厥厦厧厨𠪊叅啙啺啻啼啽啾啿喀喁喂喃善喅喆喇喈喉喊喋喌喎喏喐喑喒喓喔喕喖喗喘喙喚喛喜喝喞喟喠喡喢喣喤喥喦喧喨喩喪喫喬喭單喯喰喱喲喳喴喵喷喸喹喺喻喼喽喾㖿㗁㗄㗅㗇㗊㗎𠷈𠸄𠸉𠸊𠸍𠸎𠸏𠸐𠸑𠸖𠸝嗞
噅圌圍圎圐堖堗堘堙堚堛堜堝堞堟堠堡堢堣堤堥堦堧堨堩堪堫堬堭堮堯堰報堳場堶堷堸堹堺堻堼堾堿塀塁塂塄塅塆塇塈㙎㙘𡍵𡍶𡎎𡎘𡎚𡎜𪣻壹壺壻夡奠奡奣奤奥婷婸婹婺婻婼婽婾婿媀媁媂媃媄媅媆媇媈媉媊媋媌媍媏媑媒媓媔
媕媖媗媘媙媚媛媜媝媞媟媠媡媢媣媤媥媦媧媨媩媪媫媬媭媮媯嫏㛵㛹㜀㜁㜃㜄𡞫𡞰𡞱𡞲𡞳𡞴𡞵𡟃𡟇𡟙𡟚𡟛𡟜𡟟孱𡥼𡦀孳寊寋富寍寎寏寐寑寒寓寔寕寪㝢𡩅𡩋尊尋尌尞尰就属屟屡𡲢𡲥崱崲崳崴崵崶崷崸崹崺崻崼崽崾崿嵀嵁嵂嵃
嵄嵅嵆嵇嵈嵉嵋嵌嵍嵎嵏嵐嵑嵒嵓嵔嵕嵖嵗嵘嵙嵚嵛嵜嵝𡺉𡺤𡺨𫶇﨑嵫巯㠭巽𢁅𢁉帽帿幀幁幂幃幄幅幆幇幉𢃼幈幾庽庿廀廁廂廃廊𫷷廄弑强弻弼弽弾彘彭徚徥徦徧徨復循徫𢔰悲悳悶悹惁惄惉惌惎惑惒惖惠惡惢惣惥惩惪惫惰惱
惲惴惵惶惸惺惻惼惽惾惿愀愃愄愅愇愉愊愋愌愎愐愑愒愓愔愕愖愘愜愝愞愠愡愢愣愤愥愦慨㥡㥢㥥𢜪𢝵𢞁戞戟㦸扉扊掌掔掣掰掱掾掿揀揁揂揃揄揆揇揈揉揊揋揌揍揎描提揑插揓揔揕揖揗揘揙揚換揜揝揞揟揠握揢揣揥揦揨揩揪
揬揭揮揯揰揲揳援揵揶揷揸揹揺揻揼揽揾揿搀搁搂搃搄搅㨗㨘𢰦𢰧𢰸𢱌𢱑𢱕摒摡攲敜敞敟敠敡敢散敤敥敦敧敨敩敪㪏㪐㪗𢽴斌斐斑斝㪸𣁽𣁾斞斮斯㫀斱旐旑𣄃晪晫晬晭普景晰晱晲晳晴晵晶晷晹智晻晼晽晾晿暀暁暂暃暑㫵㫻㬀
𣇪𣇷𣇸𣇹𣈏曾替朁朂朜朝朞期㬸梴棃棄棅棆棇棈棉棊棋棌棍棎棏棐棑棒棓棔棕棖棗棘棙棚棛棜棝棞棟棠棡棢棣棤棥棦棧棨棩棪棫棬棭森棯棰棱棲棳棴棵棶棷棸棹棺棻棼棽棾棿椀椁椂椃椄椅椆椇椈椉椊椋椌植椎椏椐椑椒椓椔椕
椖椗椘椙椚椛検椝椞椟椠椡椢椣椤椥椦椧椨椩椪椫椬椭椮㭶㭸㭹㭺㭻㭼㭽㭾㭿㮀𣓥𣔙𣔰𬃊楮楰﨓欹欺欻欼欽款欿歮歯殔殕殖殗殘殙殚㱤㱦㱨㱩殼殽殾毯毰毱毲毳毴毵毶氬氭氮氯氰淼淾渃渘渙減渜渝渞渟渠渡渢渣渤渥渦渧渨温
渪渫測渭渮港渰渱渲渳渴渵渶渷游渹渺渻渼渽渾渿湀湁湂湃湄湅湆湇湈湉湊湋湌湍湎湏湐湑湒湓湔湕湖湗湘湙湚湛湜湝湞湟湠湡湢湣湤湥湦湧湨湩湪湫湭湮湯湰湱湲湳湵湶湷湸湹湺湻湼湽湾湿満溂溃溄溅溆溇溈溉溊溋溌滋滞
㴒㴓㴔㴝㴠㴢𣸆𣸑𣸣𣸬𣸭𣸮𣸯𣸰𣸱𣸹溁烻焙焚焛焜焝焞焟焠無焢焣焤焥焦焧焨焩焪焫焬焭焮焯焰焱焲焳焴焵然焷焸焹焺焻焼焽焾焿煀煮㷆㷇㷉㷌㷍𤉶𤉷𤉸𤊄𤊓𤊕𤊥𬊤爲牋牌牍𤗈牚犀犂犃犄犅犆犇犈犉犊犋㹃𤙴猆猋猌猒猢猣猤
猥猦猧猨猩猫猬猭猯猰猱猲猳猴猵猶猸猹㺄𤟠珷琔琕琖琗琘琙琚琛琜琝琟琠琡琢琣琤琥琦琨琩琪琫琬琭琮琯琰琱琲琳琴琵琶琷琸琹琺琻琼㻑㻖㻚㻛𤥻𤥿𤦂𤦈𤦉𤦊𤦋𤦌𤦍𤦎𤦏𤦔𤦤𤦧𤦩𤦫𤦬𤦭瓹瓺瓻瓼甤甥甦甯𤰉番畫畬畭畮畯畲
畳畴畱疎疏痗痘痙痚痛痜痝痞痟痠痡痢痣痤痥痦痧痨痩痪痫㾓㾘𤶸登發皒皓皔皕皖皳皴盙盚盜䀃睂睃睄睅睆睇睈睉睊睋睌睍睎睏睐睑䀹䁀矞矟矬短硜硝硞硟硠硡硢硣硤硥硦硧硨硩硪硫硬硭确硯硰硱硲硳硴硵硶硷䂴祦祰祱祲祳
祴祵祶祷祸禄䄉𥚕禼秿稀稁稂稃稄稅稇稈稉稊程稌稍税𥟇窖窗窘窙窛窜窝竢竣竤童竦竧笿筀筁筂筃筄筅筆筇筈等筊筋筌筍筎筏筐筑筒筓答筕策筗筘筙筚筛筜筝䇭䇮䇯筬粞粟粠粡粢粤粥粦粧粨粩粪粫粬粭䊃紪紫絍絎絏結絑絒絓
絔絕絖絗絘絙絚絜絝絞絟絠絡絢絣絤絥給絧絨絩絪絫絬絭絮絯絰統絲絳絴絵絶絷䌻絾缂缃缄缅缆缇缈缉缊缋缌缍缎缏缐缑缒缓缔缕编缗缘缾缿罀罤罥罦羠羡羢䍮䍯翓翔翕翖翗翘翙翚耋耠聎聏聐聑聒聓联聠𦕲胔胾脔脠脹脺脻脼
脽脾脿腀腁腂腃腄腅腆腇腈腉腊腋腌腍腎腏腑腒腓腔腕腖腗腘腙腚㬹䐀䐁䐂䐃𦜖𦝁腴臦臮臯臰𦤑臵臶臷臸臹舃舄舒舜舼舽舾舿𦨴艵茒茻荆莚莾莿菀菁菂菃菄菅菆菇菈菉菊菋菌菍菎菏菐菑菒菓菔菕菖菗菘菚菛菜菝菞菟菠菡菢菣
菤菥菦菧菨菩菪菫菬菭菮華菰菱菲菳菴菵菶菷菸菹菺菻菼菽菾菿萀萁萂萃萄萅萆萇萈萉萊萋萌萍萎萏萐萑萒萓萔萕萖萗萘萙萚萛萜萝萞萟萠萡萢萣萤萦萧著䓛䓝䓞䓟䓡䓤䓨䓩䓪䓫䓬𦱀𦱁𦱆𦱾𦱿𦲀𦲁𦲂𦲤𦲷𦲸𦲽𦳀萸虛虝蚈蛐蛑
蛒蛓蛔蛕蛗蛘蛙蛚蛛蛜蛝蛞蛟蛠蛡蛢蛣蛤蛥蛦蛧蛨蛩蛪蛫蛬蛭蛮蛯蛰蛱蛲蛳蛴䖭䖯䖳𧊲𧊶衆衇衈衉衕衖街袱袲袳袴袵袶袷袸袹袺袻袼袽袾袿裀裁裂裃裄装裆裇裈裉裗𧚔褁覃覄覙覕覗覘覚觌觍觚觛觝觞訴訵訶訷訸訹診註証訽詀
詁詂詃詄詅詆詇詈詉詊詋詌詍詎詏詐詑詒詓詔評詖詗詘詙詚詛詜詝詞詟詠䛏䛐𧦠谟谠谡谢谣谤谥谦谧豞豟豠象豾豿貀貁貂貃𧲱貯貰貱貳貴貵貶買貸貹貺費貼貽貾貿賀賁𧵓𧵔赋赌赍赎赏赐赑赒赓赔赕趀趁趂趃趄超趆趇趈趉越趋
䞡䞣跅跆跇跈跉跊跋跌跍跎跏跑跒跓跔跕跖跗跘跙跚跛跜距跞践䟭𧿹𨀂𨀉躰軤軥軦軧軨軩軪軫軬軮軯軰軱軲軳軴軵軶軷軸軹軺軻軼軽龫䡒𨋢辇辈辉辊辋辌辍辎𫐐辜辝𨐒逨逩逪逫逬逭逮逯逰週進逳逴逵逶逷逸逹逺逻𨔼𨔽郵郹郻
郼郾郿鄀鄁鄂鄃鄄鄅鄆鄇鄈鄉鄊䣐鄬酟酠酡酢酣酤酥䣳釉释量釽釾釿鈀鈁鈂鈃鈄鈅鈆鈇鈈鈉鈊鈋鈌鈍鈎鈏鈐鈑鈒鈓鈔鈕鈖鈗鈘鈙鈚鈛鈜鈝鈞鈟鈠鈡鈢鈣鈤鈥鈦鈧鈨鈩鈪鈫鈬䤞䤠𨥖𨥤铸铹铺铻铼铽链铿销锁锂锃锄锅锆锇锈锉锊
锋锌锍锎锏锐锑锒锓锔锕鿏𨱇𫓶𫟼𬭊𬭎镻開閌閍閎閏閐閑閒間閔閕閖閗阑阒阓阔阕𬮱陲陻陽陾陿隀隁隂隃隄隅隆隇隈隉隊隋隌隍階隐𬯎𨻙𨻧雁雂雃雄雅集雇雈雬雭雮雯雰雱雲雳𩂈𩂋靓靔靟靫靬靭靮靯靰靱韌韩項順頇須颉颊颋
颌颍颎颏𫖮𫖯𬱟颩颪𩖞飓飧飨飩飪飫飭飯飰飲馇馈馊馋馭馮骗骘骙骚骛𫘨𬴃骩髠䰲鱿鲀鲁鲂鲃鳦鹀鹁鹂鹃鹄鹅鹆鹇鹈𫛭𬷕黃黄黍黑黹鼋龂𬹼亂亃亄亶亷傪傫催傭傮傯傰傱傲傳傴債傶傷傸傹傺傻傼傽傾傿僀僁僂僃僄僅僆僇僈僉
僊僋僌働㑽㑾𠍁𠍅𠍆𠍇𠎵兡兾兿凗剷剸剹剺剻剼剽剾剿募勠勡勢勣勤勥勦勧匯㔲㔳㔴厀厁厪厫厯叠喍喿嗀嗁嗂嗃嗄嗅嗆嗇嗈嗉嗊嗋嗌嗍嗎嗏嗐嗑嗒嗓嗔嗕嗖嗗嗘嗙嗚嗛嗜嗝嗟嗠嗡嗢嗣嗤嗥嗦嗧嗨嗩嗪嗫嗬嗭嗮嗯嗰嗱嗲嗳嗴嗵
㗒㗖㗛㗝㗠𠹌𠹭𠹳𠹵𠹶𠹷𠹸𠹹𠹺𠹻𠺌𠺖𠺘𠺝𠺢𠺪𠺫𠺬𠺶𫫇圑園圓圔圕堽塃塉塊塋塌塍塎塏塐塑塒塓塔塕塖塗塘塙塚塛塜塝塞塟塠塡塢塣塤塥塦塧塨塩塪填塬塭塮塯塰塱㙟𡏅𡏆壼奦奧奨𡙡媐媰媱媲媳媴媵媶媷媸媹媺媻媼媽媾媿
嫀嫁嫂嫃嫄嫅嫆嫇嫈嫉嫊嫋嫌嫍嫎嫐嫑嫒嫓嫔㜈㜊㜍𡟯𡟵𡟶𡟸𡟹𡟺𡟻𡟼孴𡦃𡦈孶寖寗寘寙寚寛寜寝㝦𡩣尟尠尲尳尴𡲬嵊嵞嵟嵠嵡嵢嵣嵤嵥嵦嵧嵨嵩嵪嵬嵭嵮嵯嵰嵱嵲嵳嵴嵵嵶㟲㟸𡻈𡻕巰幊幋幌幍幎幏幹𢉼廅廆廇廈廉廋廌弒弿
彀彁彂彙彚𢑥彮徬徭微徯徰想惷惹愁愂愆愈愍意愗愙愚愛感㥣㥤㥦愧愩愪愫愭愮愯愰愱愲愴愵愶愷愹愺愼愽愾慀慃慄慅慆慉慊慌慍慎慏慑𢞖𢞴𢞵𢟍戦戠戡戢戣戤戥揧揫揱搜搆搇搈搉搊搋搌損搎搏搐搑搒搓搔搕搖搗搘搙搚搛搝
搞搟搠搡搢搣搤搥搦搧搨搩搪搬搭搮搯搰搲搳搵搶搷搸搹携搼搽搾摀摁摂摃摄摅摆摇摈摉摊㨠㨣㨦㨩㨪𢱢𢲈𢲛𢲡𢲩𢲲揅搱敭敫敬敮敯数斒𩖰斟新旒旓旔旕旤晸暄暅暆暇暈暉暊暋暌暍暎暏暐暒暓暔暕暖暗暘暙㬁㬂㬃㬄㬅㬆㬇㬈
㬉㬊㬋㬌𣈥𣈯𣈱𣈲𣈳𣈴會朠㬺椯椰椱椲椳椴椵椶椷椸椹椺椻椼椽椾椿楀楁楂楃楄楅楆楇楈楉楊楋楌楍楎楏楐楑楒楓楔楕楗楘楙楚楛楜楝楞楟楠楡楢楣楤楥楦楧楨楩楪楫楬業楯楱楲楳楴極楶楷楸楹楺楻楼楽楾楿榀榁概榃榄榅榆
榇榈榉榋榌榔榘㮕㮖㮙𣕑𣕚𣕧𣖕𣖙𣖜歀歁歂歃歄歅歆歇歈㰼㰾歱歲歳殛殜㱮殿毀毁毂𣪧毓毷毸毹毺毻毼毽氱湬溍溎溏源溑溒溓溔溕準溗溘溙溚溛溜溝溞溟溠溡溢溣溤溥溦溧溨溩溪溫溬溭溮溯溰溱溲溳溴溵溶溷溸溹溺溻溼溽溾
溿滀滁滂滃滄滅滆滇滈滉滊滍滏滐滑滒滓滔滖滗滘滙滛滜滝滟滠满滢滣滤滥滦滧滨滩滪漓㴦㴲㴳㴻𣺈𣺉𣺊𣺋𣺹𣺿滚煁煂煃煄煅煆煇煈煉煊煋煌煍煎煏煐煑煒煓煔煖煗煘煙煚煜煝煞煟煠煡煢煣煤煥煦照煨煩煪煫煬煭煯煰煱煲煳
煴煵煶煷煸煺㮡㷓㷛𤊿𤋁𤋉𤋊𤋮𤋺𤔡爺牃牎牏牐牑牒犌犍犎犏犐犑㹈𤚗献猷獁猺猻猼猽猾猿獀獂獅獆獇獈獉獊𤠒𤠣琧㻗琞琽琾琿瑀瑁瑂瑃瑄瑅瑆瑇瑈瑉瑊瑋瑌瑍瑎瑏瑐瑑瑒瑓瑔瑕瑖瑗瑘瑙瑚瑛瑜瑝瑞瑟㻞㻡㻢𤦷𤦸𤦹𤦺𤦻𤧅𤧐
𤧚𤧛𤧞𤧟𤧣𤧥瑯瓡瓽瓾瓿甁甝甞畵當畷畸畹畺㽣𤲞𤲟痬痭痮痯痰痱痲痳痴痵痶痷痸痹痺痻痼痽痾痿瘀瘁瘂瘃瘄瘅瘆𤷪𤷫瘏瘐皗皘皙𤾂𤾆皵盝盞盟䀄睒睓睔睕睖睗睘睙睚睛睜睝睞睟睠睢督睤睥睦睧睨睩睪睫睬睭䁅𥇍𥇣𥇦𥇧睡睹
矠矮硸硹硺硻硼硽硿碀碁碂碃碄碅碆碇碈碉碊碋碌碍碎碏碐碑碒碓碔碕碖碗碘碙碚碛碜碰䂻䂿䃅𬒔祹祺祻祼祽祾祿禀禁禂禃禅禆䄎禽萬稏稐稑稒稓稔稕稖稗稘稙稚稛稜稝稞稟稠稡稢稣稤稥䅟𥟟𥟠𥟡窞窟窠窡窢窣窤窥窦窧𥦬竨
竩竪竫䇏𥪕筞筟筠筡筢筣筤筥筦筧筨筩筪筫筭筮筯筰筱筲筳筴筶筷筸筹筺筻筼筽签筿简節䇸䇹䇻䇼䇽䇾䇿䈀𥭴𥮉𬕂粮粯粰粱粲粳粴粵糀䊌𥺁𥺂𥺃絛絸絹絺絻絼絽絿綀綁綂綃綄綅綆綇綈綉綊綋綌綍綎綏綐綑綒經綔綕綗綘継続綛
𦀡𦀩缙缚缛缜缝缞缟缠缡缢缣缤罧罨罩罪罫罬罭置署𦋐羣群羥羦羧羨義羪翛翜翝耡耢聕聖聗聘肄肅肆幐朡腛腜腝腞腟腠腡腢腣腤腥腦腧腨腩腪腫腬腭腮腯腰腱腲腳腵腶腷腸腹腺腻腼腽腾䐓𦝼舅舝艀艁艂艃艄艅艆艇艈艉𦩂莻菙
营萨萩萪萫萭萮萯萰萱萲萳萴萵萶萷萹萺萻萼落萾萿葀葁葂葃葄葅葆葇葈葉葊葋葌葍葎葏葐葑葒葓葔葕葖葘葙葚葛葜葝葞葟葠葡葢董葤葥葦葧葨葩葪葫葬葭葮葯葰葱葲葳葴葵葶葷葸葹葺葻葼葽葾葿蒀蒁蒂蒃蒄蒅蒆蒇蒈蒉蒋蒌
蒍蒎蒏䓴𦳃𦳑𦴢𦴣𦴤𦴥𦴦𦴧𦴨𦴩𦴪𦵑蓅蓈蓱蔇虜虞號蛖蛵蛶蛷蛸蛹蛺蛻蛼蛽蛾蛿蜀蜁蜂蜃蜄蜅蜆蜇蜈蜉蜊蜋蜌蜍蜎蜏蜐蜓蜔蜕蜖蜗蝆𧋦蝍衘衙裊裋裌裍裎裏裐裑裒裓裔裕裖裘裙裚裛補裝裞裟裠裡裣裤裥𫌀覅覛覜䚀觎觜觟觠觡
觢解觤觥触觧訾訿詡詢詣詤詥試詧詨詩詪詫詬詭詮詯詰話該詳詴詵詶詷詸詹詺詻詼詽詾詿誀誁誂誃誄誅誆誇誈誉誊誠𧧝谨谩谪谫谬谼豊豋䜶豢豣豤豥豦貄貅貆貇貈貉貊𧳅貲賂賃賄賅賆資賈賉賊賋賌賍賎𧵦𧵳𧶄赖赗赨赩赪趌趍
趎趏趐趑趒趓趔䞦跐趼跟跠跡跢跣跤跥跦跧跨跩跪跫跬跭跮路跰跱跲跳跴跶跷跸跹跺跻𨀞𨀣𨀤躱躲䠷軭軾軿輀輁輂較輄輅輆輇輈載輊輋輌辏辐辑辒输辔𫐓𬨎辞辟辠農逼逽逾逿遀遁遂遃遄遅遆遇遈遉遊運遌遍過遏遐遑遒道達違
遖遗𨕬郌鄋鄌鄍鄎鄏鄐鄑鄒鄓鄔鄕鄖鄗酦酧酨酩酪酫酬酭酮酯酰酱𨠫𬪩鈮鈯鈰鈱鈲鈳鈴鈵鈶鈷鈸鈹鈺鈻鈼鈽鈾鈿鉀鉁鉂鉃鉄鉅鉆鉇鉈鉉鉊鉋鉌鉍鉎鉏鉐鉑鉒鉓鉔鉕鉖鉗鉘鉙鉚鉛鉜鉝鉞鉟鉠鉡鉢鉣鉤鉥鉦鉧鉨鉩鉪鉫鉬鉭鉮鉯鉰
鉱鉲鉳鉴銏龯𨥨𨥬𨥭𨥾䥽锖锗锘错锚锛锜锝锞锟锠锡锢锣锤锥锦锧锨锩锪锫锬锭键锯锰锱𫓹𬭚𬭛䦉閘閙閚閛閜閝閞閟閠阖阗阘阙𫔶随隑隒隓隔隕隖隗隘䧟﨩雉雊雋雍雎雏雴雵零雷雸雹雺電雼雽雾𩂓靕靖靲靳靴靵靶靷靸靹韪韫
韮韴韵頉頊頋頌頍頎頏預頑頒頓䪴颐频颒颓颔颕颖𫖳颫颬飔飬飮飱䬦飳飴飵飶飷飹飻飼飽飾飿馉馌馍馎馏馐馚馯馰馱馲馳馴馵骜骝骞骟𫘪𫘬骪骫骬骭骮𩨨髡髢鬽魛魜魝魞鲄鲅鲆鲇鲈鲉鲊鲋鲌鲍鲎鲏鲐𬶋𬶍鳧鳨鳩鳪鳫鳭鳮鳯鳰
鹉鹊鹋鹌鹍鹎鹏鹐鹑鹒鹓鹔麀麁麂𪋿黽鼌鼎鼓鼔鼠龃龄龅龆𠁎𢆡僎像僐僑僒僓僔僕僖僗僘僙僚僛僜僝僞僟僠僡僢僣僤僥僦僧僨僩僪僫僬僭僮僯僰僱僳僴𠍾𠍿𠎀𠎠𠎧僲僷兢冩凘凳凴劀劁劂劃劄㔀㔄㔆勨勩勪勫勬勭㔢匰匱匲㔵厬
厭厮厰㕑叆𠬍﨎㕡嗶嗷嗸嗹嗺嗻嗼嗽嗾嗿嘀嘁嘂嘃嘄嘅嘆嘇嘈嘉嘊嘋嘌嘍嘎嘏嘐嘑嘒嘓嘔嘕嘖嘗嘘嘙嘚嘛嘜嘝嘞嘡嘢嘣嘤嘥嘦嘧噑𠻗𠻘𠻝𠻸𠻹𠻺𠻻𠼝𠼦𠼭𠼮𠼰𠼱𠼻𠽌嘟嘨圖圗團圙塲塳塴塵塶塷塸塹塺塻塼塽塾塿墁墂境墄墅墆
墇墈墉墊墋墌墍墎墏墐墑墒墓墔墕墖増墘墙墚墛㙡㙥㙦𡏭𡏾𡐓𡐖𪤗墭壽壾夐夢夣夤夥奩奪奫奬嫕嫖嫗嫘嫙嫚嫛嫜嫝嫞嫟嫠嫡嫢嫣嫤嫥嫦嫧嫨嫩嫪嫫嫬嫭嫮嫯嫰嫱嫲㜜㜞㜠㜢𡠠𡠨𡠩𡠪𡠭𡠹𡠺𡠻𡡀𡡅嫳孵孷𡦖寞察寠寡寢寣寤寥實
寧寨對尡屢屣嵷嵸嵹嵺嵻嵼嵽嵾嵿嶀嶁嶂嶃嶄嶅嶆嶇嶈嶉嶊嶋嶌嶍嶎㟻㠀㠁㠄幑幒幓幔幕幖幗幘幙幛𢄪幣廍廎廏廐廑廒廓廔廕廖廗廘廙廜弊彃彄彅㣃彆彯彰㣑徱徳徴𢕔徶愨愬愳愸愻愿慁慂慇慈態慐㥸慒慓慔慖慘慚慛慞慟慠慡
慢慣慥慩慪慬慯慱慲慳慴慵慷慺慻慽憀憁憆憈㦀𢠃戧戨戩截戫戬搫搴搻搿摋摌摍摎摏摐摑摓摔摕摗摘摙摚摛摜摝摞摟摠摢摣摤摥摦摧摪摫摬摭摱摲摳摴摵摶摷摸摺摻摼摽摾摿撁撂撄撇㨯㨱㨲㨳㨴㨵㨶㨷㨸㨹𢲷𢳂𢳆𢳉𢴇𢴈𢴒摖
撦敱敲敳斠斡斲𣂷旖旗暚暛暜暝暞暟暠暡暢暣暤暥暦暧暨㬍㬎㬏㬐𣉖𣉞𣉢朄朅朢㬻榊榍榎榏榐榑榒榓榕榖榗榙榚榛榜榝榞榟榠榡榢榣榤榥榦榧榨榩榪榫榬榭榮榯榰榱榲榳榴榵榶榷榸榹榺榻榼榽榾榿槀槁槂槃槄槅槆槇槈槉槊構
槌槍槎槏槐槑槒槓槔槕槖槗様槙槚槛槜槝槞槟槠槡樮㮼𣖻𣗋𣗍𣗎𣗏𣗳𣘀﨔樃歉歊歋歌歍歰歴殝殞殟殠殡毃毄𣫺毾氲氳滎滌滫滬滭滮滯滰滱滲滳滴滵滶滷滸滹滺滻滼滽滾滿漁漂漃漄漅漆漇漈漉漊漌漍漎漏漑漒演漕漖漗漘漙漚漛
漜漝漞漟漠漡漢漣漤漥漧漨漩漪漫漬漭漮漯漰漱漲漳漴漵漶漷漸漹漺漻漼漾潀潂潃潄潅潆潇潈潉潊潋潌潍㴽㵆𣻗𣻷𣻸𣻹𣻺𣻻𣻼𣼵𣽁潎潳煕煛煹煻煼煽煾煿熀熁熂熃熄熅熆熇熈熉熊熋熌熍熎熏熐熑熒熓熔熕熖熗熘熙蒸㷧㷨𤌍𤌚
𤌴𤍈爳爾牄牓牔㸢犒犓犔犕犖犗獃獄獌獍獏獐獑獒獓獔獕瑠瑡瑢瑣瑤瑥瑦瑧瑨瑪瑫瑭瑮瑰瑱瑲瑳瑴瑵瑶瑷瑸㻧㻩𤧬𤧭𤧶𤧷𤧸𤧹𤧻𤨎𤨒𤨓甀甂甃甄甅甆𤭮㽏甧畻畼畽疐疑瘇瘈瘉瘊瘋瘌瘍瘎瘑瘒瘓瘔瘕瘖瘗瘘瘧皶皷皸皹盠盡盢監
睮睯睰睱睲睳睴睵睶睷睸睺睻睼睽睾睿瞀瞁瞂瞃瞄瞅瞆䁓䁖𥈠𥈡硾碝碞碟碠碡碢碣碤碥碦碧碨碩碪碫碬碭碮碯碱碲碳碴碵碶碷碸碹磁䃈䃎𬒗禇禈禉禊禋禌禍禎福禐禑禒禓禔禕禖禗禘禙稦稧稨稩稪稫稬稭種稯稰稱稲稳穊䅧稵窨
窩窪窫窬窭𥧌竬竭端竰𥪜竮筵箁箂箃箄箅箆箇箈箉箊箋箌箍箎箏箐箑箒箓箔箕箖算箘箙箚箛箜箝箞箟箠管箢箣箤箥箦箧箨箩箪箫䈁䈂䈃䈄䈅䈆䈇䈈䈉䈊䈋䈌䈍𥮳𥮴𥯆箸粶粷粸粹粺粻粼粽精粿糁𥺦𥺼綖綜綝綞綟綠綡綢綣綤綥綦
綧綨綩綪綫綬維綮綯綰綱網綳綴綵綶綷綸綹綺綻綼綽綾綿緀緁緂緃緄緅緆緇緈緉緊緋緌緍緎総緐緑緒緔緕䋨䋩䋬䋭䋱𦁈𦁤缥缦缧缨缩缪缫𬙂罁罂罯罰罱罳罴羫翞翟翠翡翢翣翤𦑊翥耣耤耥聙聚聛聜聝聞聟聡聢聣䎺𦖠肇肈腐腿膀
膁膂膃膄膅膆膇膈膉膊膋膌膍膎膏膑䐠䐥䐦𦞙𦞳𦞴𦟌臧臺與舓舔舕舞艊艋艌艍𦩑𦩒蒐蒑蒒蒓蒔蒕蒖蒗蒘蒙蒚蒛蒜蒝蒞蒟蒠蒡蒢蒣蒤蒥蒦蒧蒨蒩蒪蒫蒬蒭蒮蒯蒰蒱蒲蒳蒴蒵蒶蒷蒹蒺蒻蒼蒽蒾蒿蓀蓁蓂蓃蓄蓆蓇蓉蓊蓋蓌蓍蓎蓏蓐
蓑蓒蓓蓔蓕蓖蓗蓘蓙蓚蓛蓜蓝蓟蓡蓢蓣蓤蓥蓦䔀䔃䔄䔉䔋𦵴𦶠𦶡𦶢𦶣𦶤𦶥𦶦𦶧𦶮𦷜𦷪𦷫𦷰虠虡𧇍蜑蜒蜫蜘蜙蜚蜛蜜蜝蜞蜟蜠蜡蜢蜣蜤蜥蜦蜧蜨蜩蜪蜬蜭蜮蜯蜰蜱蜲蜳蜴蜵蜶蜷蜸蜹蜺蜻蜼蜽蜾蜿蝀蝁蝂蝃蝄蝅蝇蝈蝉蝊蝋蝕蝫裢
裧裨裩裪裫裬裭裮裯裰裱裲裳裴裵裶裷裸裹裺裻裼製裾裿褀褂褃褄䘻褚覝覞覟覠覡觏觨觩觪觫誋誌認誎誏誐誑誒誓誔誖誗誘誙誚誛誜誝語誟誡誢誣誤誥誦誧誨誩說誫説読誮𧧽𧨊𧨎谭谮谯谰谱谲𬤝谽豧豨豩豪貋貌貍賏賐賑賒賓
賔賕賖賗賘㕢𧶏𧶘赘赙赚赛赫趕趖趗趘趙趚跼跽跾跿踀踁踂踃踄踅踆踇踈踉踊踋踌踍踎䟴𨁈躳躴躵輍輎輏輐輑輒輓輔輕𨌆𨌘辕辖辗辡辢辣遘遙遚遛遜遝遞遟遠遡遢遣遤遥郒鄘鄙鄚鄛鄜鄝鄞鄟鄠鄡鄢鄣鄤鄥䣘酲酳酴酵酶酷酸酹
酺酻酼酽酾酿䣺鈭鉵鉶鉷鉸鉹鉺鉻鉽鉾鉿銀銁銂銃銄銅銆銇銈銉銊銋銌銍銎銐銑銒銓銔銕銖銗銘銙銚銛銜銝銞銟銠銡銢銣銤銥銦銧銨銩銪銫銬銭銮銯銰銱䤤䤥䤦䤪𨦉𨦨𨦪𨦫鋮鉼锲锳锴锵锶锷锸锹锺锻锼锽锾锿镀镁镂镃镄镅𬭤
閡関閣閤閥閦閧閨閩閪阚隙隚際障隝隞隟隠隡雌雐雑雒𨿅雿需霁䨏𩂯𩂰𩂱靗靘静靤靺靻靼靽靾靿鞀鞁鞂鞃鞄鞅鞆韍韎韬韶韷𩐝頔頕頖頗領頙頚䪸颗颭颮颯颰颱䫿䬀𩖸飖飕飗飸䬬餀餁餂餃餄餅餆餇餉餌餎餏馑馒馛馜馝䭯馶馷馸
馹馺馻馼馽馾馿駀駁駂駃駄駅駆駇䭻䭾骠骡骢骯骰骱䯈髚髣髤髥髦髧髨髩髪𩬅𩬎鬦鬾鬿魀魁魂𩲭魟魠魡魢𩵚鲑鲒鲓鲔鲕鲖鲗鲘鲙鲚鲛鲜鲝鲞鲟𩽾𫚕𫚖𬶏𬶐鳱鳲鳳鳴鳵鳶鹕鹖鹗鹙鹚鹛鹜𬸘𬸚麧麼麽鼻齊龇龈僵僶僸價僺僻僼僽僾
僿儀儁儂儃億儅儆儇儈儉儊儋儌儍儎儏㒓㒖㒘𠏉𠏋儰凙凚凛凜𠘑劅劆劇劈劉劊劋劌劍劎劏勮勯勰勱勲匔匳厱厲𠪴叇㕙噓嘠嘩嘪嘫嘬嘭嘮嘯嘰嘱嘲嘳嘴嘵嘶嘷嘸嘹嘺嘻嘼嘽嘾嘿噀噁噂噃噄噆噇噈噉噊噋噌噍噎噏噐噒噔噖噗噘噙
噚噛噜噝噴㗱㗲㗳𠽤𠾍𠾐𠾭𠾴𠾵𠾶𠾼𡀔圚墀墜墝增墟墠墡墢墣墤墥墦墧墩墪墫墬墮墯墰墱墲墳墴墵墶墷墸墹𡐤𡐿𡑒𡑔𡑕壿夀𡕷夦奭嫴嫵嫶嫷嫸嫹嫺嫻嫼嫽嫾嫿嬀嬁嬂嬃嬄嬅嬆嬇嬈嬉嬊嬋嬌嬍嬎嬏㜣㜥㜦𡡒𡡞𡡡𡡢𡡣𡡤𡡷𡡻𡢃𡢄
𡢅審寫寬寭寮㝯導𡭄尵層履屦屧㞠嶏嶐嶑嶒嶓嶔嶕嶖嶗嶘嶙嶚嶛嶜嶝嶞嶟嶠嶡嶢嶣嶤嶥㠇㠏𡼏𡼕巤幚幜幝幞幟幠幡幢幤幥㡡幩廚廛廝廞廟廠廡廢廣廤彇彈彉影徲徵德徸徹徺慕慗慙慜慝慤慦慧慫慭慮慰慶慸慹慼慾慿憂憃憄憅憇
憉憋憍憎憏憐憒憓憔憕憘憚憛憜憞憟憡憢憣憤憦憧憪憫憬憭憮憯憰憱憳㦉㦊㦒𢡟𢡠𢡱戭戮戯摨摩摮摯摰摹撀撃㨼撅撆撈撊撋撌撍撎撏撐撑撒撓撔撕撖撗撘撙撚撛撜撝撞撟撠撡撢撣撤撥撧撨撩撪撫撬播撮撯撰撱撲撳撴撵撶撷撸
撹撺擆㩋𢵄𢵌𢵧敵敶敷數敹敺敻𢿌斳𣂼暩暪暫暬暭暮暯暰暱暲暳暴暵暶暷㬑㬒㬓㬔㬕㬖𣊁𣊊暼膤㬼㬽㬾槩槢槣槤槥槦槧槨槪槫槬槭槮槯槰槱槲槳槴槵槶槷槸槹槺槻槼槽槾槿樀樁樂樄樅樆樇樈樉樊樋樌樍樎樏樐樑樒樓樔樕樖樗
樘標樚樛樜樝樞樟樠模樢樣樤樥樦樧権横樫樬樭樯樰樱橥㮾㯂㯄𣘗𣘚𣘼𣙀𣙙𣙟𣙷歎歏歐歑歒歓歵歶殢殣殤殥殦㱳㱴毅毆毿氀氁氂滕漀漐漦漿潁漋漽潏潐潑潒潓潔潕潖潗潘潙潚潛潜潝潟潠潡潢潣潤潥潦潧潨潩潪潫潬潭潮潯潰潱
潲潴潵潶潷潸潹潺潻潼潽潾潿澁澂澄澅澆澇澈澉澊澋澌澍澎澏澐澑澒澓澔澕澖澗澘澚澛澜澝濐㵌㵎㵐㵑𣽊𣽡𣽿𣾀𣾁𣾂𣾏𣾴𣾷濆熦熚熛熜熝熞熟熠熡熢熣熤熥熧熨熩熪熫熬熭熮熯熰熱熲熳熴熵黙龦㷫𤍢𤍣𤍤𤍥𤎌𤎖𤎜噕爴牅牕牖
牗犘犙犚犛𤛔獎獋獖獗獘獙獚獛獜獝獞獟獠獡獢獤𤢂瑩瑬瑹瑺瑻瑼瑽瑾璀璁璂璃璄璅璆璇璈璉璊璋璌璎璓㻫㻬㻰㻳㻴𤨕𤨡𤨢𤨣𤨤𤨥𤨦𤨧𤨨𤨩𤨪𤨾𫞩甇甈甉㽓𤯵畾畿瘟瘙瘚瘛瘜瘝瘞瘠瘡瘢瘣瘤瘥瘦瘨瘩瘪瘫㾷㿀𤸻𤹐皚皛皜皝皞
㿥𤾗𤾚皺盤瞇瞈瞉瞊瞋瞌瞍瞎瞏瞐瞑瞒瞓䁗𥉐確碻碼碽碾碿磀磂磃磄磅磆磇磈磉磊磋磌磍磎磏磐磑磒磓磔磕磗磘磙磤𥔱𥔲𥔵𥔿禚禛禜禝禞禟禠禡禢禣𥛣稴稶稷稸稹稺稻稼稽稾稿穀穁穂穃䅬䅮䅵𥡗窮窯窰窱窲窳窴箬箭箮箯箰箱
箲箳箴箵箶箷箹箺箻箼箽箾箿篁篂篃範篅篆篇篈篊篋篌篍篎篏篐篑篒篓䈎䈏䈐䈑䈒䈓䈔䈕䈚䈜䈠䈢䈣䈦䈩𥯤𥯨𥰁𥰆糂糃糄糅糆糇糈糉糊糋糌糍糎䊔𥻗𥻘緓緖緗緘緙線緛緜緝緞緟締緡緢緣緤緥緦緧編緩緪緫緬緭緮緯緰緱緲緳練
緵緶緷緸緹緺緻緼緽緾緿縀縁縂縃縄縅縆縇䋴䋻䋼䌀䌁䌄𦂃𦂗𦂤𦂥䌾缬缭缮缯罵罶罷罸羬羭羮羯羰翦翧翨翩翪翫翬翭𦑩耦耧䎬聤聥聦聧聨聩聪聫𦖭膒膓膔膕膖膗膘膙膚膛膜膝膞膟膠膡膢膣䐭䐳䐴臱舖舗艎艏艐艑艒艓艔䑺蒊蓠
蓧蓨蓩蓪蓫蓬蓭蓮蓯蓰蓲蓳蓴蓵蓶蓷蓸蓹蓺蓻蓼蓽蓾蓿蔀蔁蔂蔃蔄蔅蔆蔈蔉蔊蔋蔌蔍蔎蔏蔐蔑蔒蔓蔔蔕蔖蔗蔘蔙蔚蔛蔜蔝蔞蔟蔠蔡蔢蔣蔤蔥蔦蔧蔨蔩蔪蔫蔬蔭蔮蔯蔰蔱蔲蔳蔴蔵蔶蔷蔸蔹蔺蔻蔼䔖䔛䔠䔦䔧䕄𦸀𦸅𦸇𦸒𦹂𦹃𦹄𦹅
𦹮𦹲𦹷𦺄蔽蕏虢蝌蝎蝏蝐蝑蝒蝓蝔蝖蝗蝘蝙蝚蝛蝜蝝蝞蝟蝠蝡蝢蝣蝤蝥蝦蝧蝨蝩蝪蝬蝭蝮蝯蝰蝱蝲蝳蝴蝵蝶蝷蝸蝺蝻蝼蝽蝾蝿螀蟡䗖𧍒𧎚螂衚衛衜衝𧗽裦褅褆複褈褉褊褋褌褍褎褏褐褑褒褓褔褕褖褗褘褙褛褜褝䙅䙆𧜏覢覣覤覥
𧡘覩觐觑觬觭觮觯觰誕誯誰誱課誳誴誵誶誷誸誹誺誻誼誽誾調諀諁諂諃諄諅諆談諈諉諊請諌諍諎諏諐諑諒諓諔諕論諗諘諙諚諩䛵䛷𧨾𧩓𧩙諛諸谳谴谵𫍽谾豌豍豎𧯯𧯴豬貎貏賙賚賛賜賝賞賟賠賡賢賣賤賥賦賧賨賩質賫賬䝼賭赜
赭趛趜趝趞趟趠趡趢趣趤踏踐踑踒踓踔踕踖踗踘踙踚踛踜踝踞踟踠踡踢踣踤踥踦踧踨踩踪踬踭踮踯踺䠀䠁䠋𨂃𨂐踫踷躶躷躸躹躺躻躼𨉖輖輗輘輙輚輛輜輝輞輟輠輡輢輣輤輥輦輧輨輩輪輫輬䡝𨌯𨌺辘辤辳遦遧遨適遪遫遬遭遮遯
遰遱遳遷郶鄦鄧鄩鄪鄫鄭鄮鄯鄰鄱鄲䣝醀醁醂醃醄醅醆醇醈醉醊醋醌銲銳銴銵銶銷銸銹銺銻銼銽銾銿鋀鋁鋂鋃鋄鋅鋆鋇鋈鋉鋊鋌鋍鋎鋏鋐鋑鋒鋓鋔鋕鋖鋗鋘鋙鋚鋛鋜鋝鋞鋟鋠鋡鋢鋣鋤鋥鋦鋧鋨鋩鋪鋫鋬鋭鋯鋰鋱鋲鋳鋴鋵鋶䤭
䤯䤰𨦸𨦼𨧀𨧜𨧞𨧡𨧣𨧤﨧镆镇镈镉镊镋镌镍镎镏镐镑镒镓镔镕𨱏𬭩镼閫閬閭閮閯閰閱閲閳閴𨴴隢隣隤隥䧥雓霂霃霄霅霆震霈霉霊𩃀靚靠靥鞇鞈鞉鞊鞋鞌鞍鞎鞏鞐鞑鞒韏韐韑韯𩐠頛頜頝頞頟頠頡頢頣頦頧頨頩頪頫頬题颙颚颛颜
额颲颳飘飺餈養餋餍䬷餑餒餓餔餕餖餗餘餙馓馔駈駉駊駋駌駍駎駏駐駑駒駓駔駕駖駗駘駙駚駛駜駝駞駟駠𩢤骣𬴊骲骳骴骵骶骷髛髫髬髮髯髰髱髲髳髴鬧魃魄魅魆䰠魣魤魥魦魧魨魩魪魫魬魭魮魯魰魱魲魳魴魵魶魷魸魹䰻䰾𩵼鲠
鲡鲢鲣鲤鲥鲦鲧鲨鲩鲪鲫鲬𩾃鳷鳸鳹鳺鳻鳼鳽鳾鳿鴀鴁鴂鴃鴄鴅鴆鴇鴈鴉鴋鴌鴍鴎䲮䲰䲷𩾷䴓鹘鹝鹞鹟鹠鹡鹢鹣鹤𬸣鹶麃麄𪊓麨麩麪麫麹麾黎墨黓鼏鼐鼑齑齒龉龊亸儐儑儒儓儔儕儖儗儘儙儚儛儜儝儞儫𠏵𠏼兣𠓼冀冪凝凞𠘕劐
劑劒劓劔勳匴叡噞噟噠噡噢噣噤噥噦噧器噩噪噫噬噭噮噯噰噱噲噳噵噶噷噸噹噺噻噼㗻㗾㘀㘁㘂㘃㘄𠿟𠿪𠿫𠿬𠿭𡀝𡀞圛圜墺墻墼墽墾墿壀壁壂壃壄壅壆壇壈壉壊壋壌龳夁奮奯嬐嬑嬒嬓嬔嬕嬖嬗嬘嬙嬚嬛嬜嬝嬞嬟嬠嬡嬢嬴㜫㜬
㜭𡢞𡢟𡢠𡢡𡢢𡢾𡢿嬨學孹寯寰嶦嶧嶨嶩嶪嶫嶬嶭嶮嶯嶰嶱嶲嶳嶴嶵嶶㠓𪩘幦幧幨㡢㡣㡤𢅛幯廥廦廧廨廩廪彊彋彛彜𢑱𢒰徻徼憊憌憑憖憗憙憝憠憥憨憩憲憴憶憷憸憹憺憽憾憿懀懁懄懅懆懈懊懌懍懎懏懐懒懓懔㦙𢢭𢣁憻戱戰撉撻
撼撽撾撿擀擁擂擃擄擅擇擈擉擋擌操擏擐擑擒擓擔擕擖擗擙據擛擜擝擞㩒㩔㩗𢶍𢶕𢶠𢶣𢶤𢶷擳攳整敼敽敾敿𢿣斓斢斴旘旙暸暹暺暻暽暾暿曀曁曂曃曄曅曆曇曈曉曊曋曌曍龧㬗㬘㬙㬚㬛㬜㬝㬞㬟𣊉𣊫𣊬𣊭曏朆㬱朣朤㬿樨橴樲樳
樴樵樶樷樸樹樺樻樼樽樾樿橀橁橂橃橄橅橆橇橈橉橊橋橌橍橎橏橐橑橒橓橔橕橖橗橘橙橚橛橜橝橞機橠橡橢橣橤橦橧橨橩橪橫橬橭橮橯橰橱橲橳橵橶橷橸橹橺橻橼㯗㯝𣚎𣚞𣚦𣚭𣚺𣛟𣛮歔歕歖歗歘歙歚歷殧殨殩殪殫毇毈氃氄氅
氆氇潞澃澙澞澟澠澡澢澣澤澥澦澧澨澪澫澬澭澮澯澰澱澲澳澴澵澶澷澸澹澺澻澼澽澾澿激濁濂濃濄濅濇濈濉濊濋濍濎濏濑濒濓濖㵟㵢㵥㵩㵪𣿅𣿫𣿬𣿭𣿮𣿯𣿰𤀑瀄熶熷熸熹熺熻熼熽熾熿燀燁燂燃燄燅燆燇燈燉燊燋燌燍燎燏燐燑
燒燓燔燕燖燗燘燙燚燛燜燝燞㷳㷴㷷㷼㷽𤎽𤏁𤏩𤏪𤏲犜犝犞犟獣獥獦獧獨獩獪獫獬獭瑿璍璏璑璒璔璕璖璘璙璚璛璜璝璞璟璠璡璣璤㻼𤩂𤩅𤩊𤩎𤩏𤩐𤩑𤩝𤩥𤩦𤩧璢瓢𤬏甊甋甌甍甎疀疁疂𤳉瘬瘭瘮瘯瘰瘱瘲瘳瘴瘵瘶瘷瘸瘹瘺瘻瘼
瘽瘾瘿癊㿈皟皠皡皻盥盦盧𥂝瞔瞕瞖瞗瞘瞙瞚瞛瞜瞝瞞瞟瞠瞡瞢瞣䁢䁥䁪𥊙瞥磖磜磚磛磝磞磟磠磡磢磣磥磦磧磨磩磪磫磬磭磮䃘𥕛𥕜𥕝𥕞𥕢𥕥𥕦禤禥禦禩𥛶穄穅穆穇穈穋穌積穎穏穐穑穒䅼𥡝𥡲穓窵窶窷窸窹窺窻窼窽䆲竱𥪮築
篔篕篖篗篘篙篚篛篜篝篞篟篠篡篢篣篤篥篦篧篨篩篪篫篬篭篮篯簑䈪䈫䈭䈮䈰䈱䈲𥰡𥱊𥱥篹糏糐糑糒糓糔糕糖糗糘䨀縈縉縊縋縌縍縎縏縐縑縒縓縔縕縖縗縘縙縚縛縜縝縞縟縠縡縢縣縤縥縦縧縨䌊缰缱缲缳缴𫄷罃罹罺罻罼羱羲
翮翯翰翱耨耩耪𦔒聬聭䏁𦖿聮膐朥膦膧膨膩膪膫膬膭膮膯膰膱膲膳膴膵膶䐻𦠜𦡮膷膹臲臻興舆舉舘艕艖艗艘艙蓞蔾蔿蕀蕁蕂蕃蕄蕅蕆蕇蕈蕉蕊蕋蕌蕍蕎蕐蕑蕒蕓蕔蕕蕖蕘蕙蕚蕛蕜蕝蕞蕟蕠蕡蕢蕣蕤蕥蕦蕧蕨蕩蕪蕫蕬蕭蕮蕯蕰
蕱蕲蕳蕴蕵䔝䔮䔳䔶䔻䔽䔿䕀䕃䕅𦺈𦺋𦺙𦻐𦻑𦻒𦻓𦻔𦻕𦻖𦻗𦼦薌𬞟﨟虣虤虥虦蝹螁螃螄螅螆螇螈螉螊螋螌融螎螏螐螑螒螓螔螕螖螗螘螙螚螛螜螝螞螟螠螡螢螣螤螥螦螧螨螩䗚䗛䗝衞衟衠衡䘗𧗾褞褟褠褡褢褣褤褥褦褧褨褩褪褫
褬褭褮褯褰褱褲褴䙏𧜵𧜶𧝁覦覧覨親𧡰觱䚡諜諝諞諟諠諡諢諣諤諥諦諧諨諪諫諬諭諮諯諰諱諲諳諴諵諶諷諹諺諻諼諽諾諿謀謁謂謃𧩹𧪄謔豫豭豮䝎𧱬貐貑貒貓賮賯賰賱賲賳賴賵𧶽赝赞赟赠赬赮趥趦趧𧼮踰踱踲踳踴踵踶踸踹踻
踼踽踾踿蹀蹁蹂蹃蹄蹅𨂽𨂾躽躾輭輮輯輰輱輲輳輴輵輶輷輸輹輺輻輼𨍥辙辚辥辦辧辨辩辪遲遴遵遶選遹遺遻遼邆䢭𨗨𨗴𨘀郺鄳鄴鄵鄶鄷醍醎醏醐醑醒醓醔醕醖醗䤀䤆鋋鋷鋸鋹鋺鋻鋼鋽鋾鋿錀錁錂錃錄錅錆錇錈錉錊錋錌錍錎錏
錐錑錒錓錔錕錖錗錘錙錚錛錜錝錞錟錠錡錢錣錤錥錦錧錩錪錫錬錭錮錯錰錱録錳錴錵錶錷錸錹錺錻錼錽錾錿鍀鍁鍂鍃鍄鍅鍆鍈龬䤵𨧧𨧨𨧹𨧺𨧻𨧼𨨏𨨖𨨥𨨩﨨鍺镖镗镘镙镚镛镜镝镞镟镠𬭬𬭯閵閶閸閹閺閻閼閽閾閿闁闂䦡䦧闍阛
隦隧隨隩險隫䧧隷雔雕霋霌霍霎霏霐霑霒霓霔霕霖霗䨝𩃤𩃥𩃬𩃭靛靜靦鞓鞔鞕鞖鞗鞘鞙韒韰韸頤頥頭頮頯頰頱頲頳頴頵頶頷頸頹頺頻頼頽𩓐𩓙𩓚颞颟颠颡颴颵𩗗飙飚餐餝餚餛餜餞餟餠餡餢餣餤餦餧館餩𩜠餴𫗴馞馟馠駡駢駣駤
駥駦駧駨駩駪駫駬駭駮駯駰駱駲𩣑骸骹骺骻骼𩩍骿髭髵髶髷髸髹髺髻鬇鬨鬳魇魺魻魼魽魾魿鮀鮁鮂鮃鮄鮅鮇鮈鮉鮊鮋鮌鮍鮎鮏鮐鮑鮒鮓鮔鮕鮖鮗鮘鮣䱀䱇䱉𩶘𩶛䲟鲭鲮鲯鲰鲱鲲鲳鲴鲵鲶鲷鲸鲹鲺鲻鴊鴏鴐鴑鴒鴓鴔鴕鴖鴗鴘鴙
鴚鴛鴝鴞鴟鴠鴡鴢鴣鴤鴥鴦鴧鴨鴩鴪鴫鴬𩿞鹥鹦鹧鹨𬸦鹷鹾麅麆麇麈𪊟麬麭麮䴴麺黅黆黔黕黖黗默黺鼒鼼鼽齓𫠜𬺈龍龜償儠儡儢儣儤儥儦儧儨儩優儬𠐓𠐔𠐟儲凟𠘙𠘚劕勴勵勶㔥㔦匵厳㕓𠮏噽噾噿嚀嚁嚂嚃嚄嚅嚆嚇嚈嚉嚊嚋嚌
嚍嚎嚏嚐嚑嚒嚓𡁏𡁜𡁯𡁵𡁶𡁷𡁸𡁻𡂈壍壎壏壐壑壒壓壔壕壖壗㙺𡒊𡒗𡚒嬣嬤嬥嬦嬧嬩嬪嬫嬬嬭嬮嬯嬰嬱嬲嬳嬵嬶嬷𡣑𡣖𡣗𡣘𡣙孺孻寱寲尶尷屨嶷嶸嶹嶺嶼嶽嶾嶿㠙𡽪嶻幪幫幬㡥㡦彌徽徾𢖍憵憼懂懃懇應懋懑懗懙懚懛懜懝懞懠
懡懢懤懥懦懧懨𢣷戲戴擊擎擘擟擠擡擢擣擤擦擨擩擫擬擭擮擯擰擱㩜㩞𢷮斀斁斂斃斣斵斶旚曎曐曑曒曓曔曕曖曗曚㬠㬡㬢𣋒曙㬲㭀橽橾橿檀檁檂檃檄檅檆檇檈檉檊檋檌檍檎檏檐檑檒檓檔檕檖檗檘檙檚檛檜檝檞檟檠檡檢檣檤檥
檦檧檨檩檪㯬㯲㯳㯴𣜃𣜖𣜠𣜭𣜯𣜿櫛歛歜歝㱆殬殭殮毚氈氉氊澩濌澀濔濕濗濘濙濚濛濜濝濞濟濠濡濢濣濤濥濦濧濨濩濪濫濬濭濮濯濰濱濲濴濵濶濸㵯㵳㵵𣿀𤀹𤀺𤀻𤀼𤀽𤁗營燠燡燢燣燤燥燦燧燨燩燪燫燬燭燮燯燰燱燲燳燴燵燶
燷㸀㸁㸂𤏸𤐄爵牆犠㹕獮獯獰獱獲獳獴璐璗㻺璥璦璨璩璪璫璬璭璮璯環璱璲璳璴㻿㼀㼁𤩱𤩷𤩸𤩹𤩺𤩽甏甐甑甒㼿疃疄𤳙癀癁療癃癄癅癆癇癈癉癋癌癍癎𤺥𤺧皢皣皤皥皼盨盩盪䀉瞤瞦瞧瞨瞩瞪瞫瞬瞭瞮瞯瞰瞱瞲瞳瞴瞵瞶瞷䁯䁱
𥋇矯矰磯磰磱磲磳磴磵磶磷磸磹磺磻磼磽磾磿礀礁礂礃礄礅䃟𥖁𥖄𥖏禧禨禪禫𥜆穉穔穕穖穗穘穙穚穛穜穝穞䅿窾窿竀竁竂䆹竲竳竴𥪯簕篰篱篲篳篴篵篶篷篸篺篻篼篽篾篿簀簁簂簃簄簅簆簇簈簉簊簋簌簍簎簏簐簒簓簔簖簗䈻䉀
䉁䉂䉃䉄䉅𥲑𥲤𥳀簘糙糚糛糜糝糞糟糠糡糢糨䊢縩縪縫縬縭縮縯縰縱縲縳縴縵縶縷縸縹縺縻縼總績縿繀繁繂繃繄繅繆繇繉繊繌繍𦄂𦄡繈𦈡𫄸𬙊罄罅罆罽罾罿羁𦎾翲翳翴翵翶翼𦒄𦒈𦒉耫耬聯聰聱聲聳聴𦘦膥膸膺膻膼膽膾膿臀臁
臂臃臄臅臆臇臈臉臊臌𦡆𦡞臨臩𦧲艚艛艜艝艱蕗蕶蕷蕸蕹蕺蕻蕼蕽蕾蕿薀薁薂薃薄薅薆薇薈薉薊薋薍薎薏薐薑薒薓薔薕薖薗薘薙薚薛薜薝薞薟薠薡薢薣薤薥薦薧薨薪薫薬薮龩䕆䕑𦽳𦽴𦾟𦾡薭薯虧虨螪螫螬螭螮螯螰螱螲螳螴螵
螶螷螸螹螺螻螼螽螾螿蟀蟁蟂蟃蟄蟅蟆蟇蟈蟉蟊蟋蟌蟍蟎蟏蟐蟑蟒䗩䗪䗮𧏿𧐢蟞褳褵褶褷褸褹褺褻褼褽褾褿襀襁襂襃襄襅襔䙛襒鿋𧝞覫覬覭覮覯觲觳𧤤謄謅謆謇謈謉謊謋謌謍謎謏謐謑謒謓謕謖謗謘謙謚講謜謝謞謟謠謡謢䜀𧪽
𧪾䜦谿豀豁豏豯豰豱豲豳貔貕貖賶賷賸賹賺賻購賽𧷜赡赢赯趨蹆蹇蹈蹉蹊蹋蹌蹍蹎蹏蹐蹑蹒蹓𨃨𨃩𨃴輽輾輿轀轁轂轃轄轅𨍭𨍽𫟦辫遽遾避邀邁邂邃還邅邉䢮𨘋鄸鄹醘醙醚醛醜醝醞醟醠醡醢醣醤𨤳錨鍇鍉鍊鍋鍌鍍鍎鍏鍐鍑鍒鍓
鍔鍕鍖鍗鍘鍙鍚鍛鍜鍝鍞鍟鍠鍡鍢鍣鍤鍥鍦鍧鍨鍩鍪鍫鍬鍭鍮鍯鍰鍱鍲鍳鍴鍵鍶鍷鍸鍹鍻鍼鍽鍾鍿鎀鎁鎂鎃鎄鎅鎆鎇䤼𨨲𨨶𨩄𨩅𨩆𨩇𨩈𨩉𨩊𨩋𨩙𨩚𨪁𨪂𨪃鎡鎯镡镢镣镤镥镦镧镨镩镪镫𨱑𨱔𫔍𫔎𬭳𬭶𬭸𬭼闀閷闃闄闅闆闇闈闉闊
闋闌闎闏隬隭隮隯隰隱隲隸雖䨁䨂霘霙霚霛霜霝霞霟霠䨤𩄍𩄐霡䩊鞚鞛鞜鞝鞞鞟鞠鞡韓韔韕韱顀顁顂顃顄顅顆顇顈顉顊䫑𩓥𩓧颶颷䬐𩗩𩗴䬠餥餪餫餬餭餯餰餱餲餳餵餷𩜲饂饆馘馡馢馣䭰䭲駴駵駶駷駸駹駺駻駼駽駾駿騀騁騂騃
䮎䮐𩣪駳骤骽骾髼髽髾髿鬀鬁鬂鬴魈魉鮆鮙鮚鮛鮜鮝鮞鮟鮠鮡鮢鮤鮥鮦鮧鮨鮩鮪鮫鮬鮭鮮鮯鮰鮱鮲鮳鮴鮺䱋䱌䱍鯎鲼鲽鲿鳀鳁鳂鳃鳄鳅鳆鳇鳈鳉鳊鳋𬶟𬶠𬶨鲾鴜鴭鴮鴯鴰鴱鴲鴳鴴鴵鴶鴷鴸鴹鴺鴻鴼鴽鴾鴿鵀鵁鵂鵃鵄鵅鵆鵇鵈
鵉䳍䳔𪀔䴔䴕鵧鹩鹪鹫鹬𬸪麉麊麋𪊲麯麰黇黈黉黏黚黛黜黝點𪐴黻黿鼢鼣鼤鼾鼿齋𪗆齔齢龋龌龠儭儮儯儱㒯𠓾冁𠖥𠫂叢嚔嚕嚖嚗嚘嚙嚚嚛嚜嚝嚞嚟嚠嚡嚢嚣嚤㘉㘎𡂖𡂝𡂴𡂿𡃀𡃁𡃇𡃈𡃉𡃏𡃓嚮壘壙𡒶夑夓奰嬸嬺嬻嬼㜰㜱𡣺屩屪
巀巁巂幭幮廫彍彝彞懕懖懘懟懣㦛懩懪懫懭懮懰懱懳懴㦡戳擧擪擥擲擴擵擶擷擸擹擺擻擼擽擾擿攁攂攃攄攅攆㩡㩦㩧𢸍贁㪫𣁦斔𣂎斷旛曘曛曜㬣㬤㬥㬦㬧㬨𣋠𣋡朦檫檬檭檮檯檰檱檲檳檴檵檶檷檸檹檺檻檼檽檾檿櫀櫁櫂櫃櫄櫅
櫆櫇櫈櫉櫊𣝦𣞁櫡櫭歞歟歸殯毉氋濷濹濺濻濼濽濾濿瀀瀁瀂瀃瀅瀆瀇瀈瀉瀊瀋瀌瀍瀎瀏瀐瀑瀒瀓瀔㵽𤂅𤂋𤂌𤂍𤂑瀦燸燹燺燻燼燽燾燿爀爁爃㸄𤐵𤐶𦦨獵獶獷璧璵璶璸璹璻璼璾璿瓀瓁瓂𤪌𤪓𤪔𤪕𤪖𤪤𤪥𤪦𤪧甓甔甕疅癏癐癑癒癓
癔癕癖癗癘癙癚癛癜癝癞癤皦皧皨𤾩皽㿹盫盬瞸瞹瞺瞻瞼瞽瞾瞿矀矁矂𥋘礆礇礈礉礊礋礌礍礎礏礐礑礒礓礔礕礖𥖨禬禭禮禯䄠穟穠穡穢穣䆁𥣈竄竅竵簙簚簛簜簝簞簟簠簡簢簣簤簥簦簧簨簩簪簫簭簮簯簰簱簲䉎䉕𥳁𥳾𥴠糣糤糥
糦糧䊦𥼚繎繏繐繑繒繓織繕繖繗繘繙繚繛繜繝繞繟繠繡繢繣繤繥繧繱䌘𦅙𦅚𦅛𦅜罇罈罉𦉘羀羂羳羴羵翷翸翹翺翻䎖䎗𦒍𦒘耭耮聵聶職臍臎臏臐臑臒臓䑃䑄䑅𦢈舊舙艞艟艠䒏薩薰薱薲薳薴薵薶薷薸薹薺薻薼薽薾薿藀藁藂藃藄藅
藆藇藈藉藊藋藌藍藎藏藐藒藓䕒䕔䕕䕗䕘䕜𦾾𦿞𦿟𧀎𬟁虩䖛蟓蟔蟖蟗蟘蟙蟚蟛蟜蟝蟟蟠蟢蟣蟤蟥蟦蟧蟨蟩蟪蟫蟬蟭蟮蟯蟰蟱蟲蟳蟴蟵蠎𧑐𧒄𧒆襆襇襈襉襊襋襌襍襎襏襐襑襓襕𧞄𧞅覆覰覱覲観䚍觴鵤謣謤謥謦謧謨謩謪謫謬謭謮
謯謰謱謲謳謴謵謶謷謸謹謺謻謼謽謾𧫴譇豂豐豴豵䝏貗貘貙賾賿贀贂贃贄贅趩蹔蹕蹖蹗蹘蹙蹚蹛蹜蹝蹞蹟蹠蹡蹢蹣蹤蹥蹦蹧蹮躀䠠𨄮蹩躿軀軁𨉼轆轇轈轉轊轋轌䡱𨎊辬邇邈𨘥鄨鄺鄻鄼鄽鄾醥醦醧醨醩醪醫醬釐鎈鎉鎊鎋鎌鎍鎎
鎏鎐鎑鎒鎓鎔鎕鎖鎗鎘鎙鎚鎛鎜鎝鎞鎟鎠鎢鎣鎤鎥鎦鎧鎨鎪鎫鎬鎭鎮鎰鎱鎲鎳鎴鎵鎶鎷鎸鎹鎺鎻鎼鎽鎾鎿龲䤾䥄䥅䥇𨪚𨪛𨪜𨫀𨫆𨫋𨫌𨫎镬镭镮镯镰镱闐闑闒闓闔闕闖闗闘𨶙隳雗雘雙雚雛雜雝雞雟雠䨃離霢霣霤霥䨦靝鞢鞣鞤鞥
鞦鞧鞨鞩鞪鞫鞬鞭鞮鞯鞰韖韗韘韙韚䪖韹韺𩐳頿頾顋題額顎顏顐顑顒顓顔顕颢颣颸颹颺餮䭉䭋䭌餶餸餹餺餻餼餽餾餿饀饁馤馥騄騅騆騇騈騉騊騋騌騍騎騏騐騑騒験䮓䮖䮗𩣱𩣺𩤃𩤅髀髁髜鬃鬄鬅鬆鬈䰀䰁鬩鬵鬶魊魋魌魍魎魏䰦
鮵鮶鮷鮸鮹鮻鮼鮽鮾鮿鯀鯁鯂鯃鯄鯆鯇鯈鯉鯊鯋鯌鯍鯏鯐鯑鯒鯓鯽䱗𩷶鳌鳍鳎鳏鳐鳑鳒䲤鵊鵋鵌鵍鵎鵏鵐鵑鵒鵓鵔鵕鵖鵗鵘鵙鵚鵛鵜鵝鵞鵟鵠鵢鵣鵥鹭鹮鹯鹰麌麍麎麏麐䴦𪊴𪊶𪊺𪊽麱麲䴶麿黊黋黟黠黡鼀鼁鼂䵶鼕鼖鼥鼦鼧鼨
鼩鼪鼫鼬齌齕龎㐦儳儴儵㒣劖勷勸匶厴壡嚥嚦嚧嚨嚩嚪嚫嚬嚭嚯嚰𡃤𡃴𡃵𡃶壚壛壜壝壞壟壠壢夒嬽嬹嬾嬿㜲㜳㜴㜵𡤃𡤄𡤅孼寳寴寵屫巃巄巅㠠㠢𡾞𡾡幰𢅳廬廭龐彟徿懬懯懲懵懶懷𢤦𢤹懻攀攇攈攉攊攋攌攍攎攏攐攒𢸶𢹂斄旜旝
旞曝曞曟曠曡曢㬩㬪櫋櫌櫍櫎櫏櫐櫑櫒櫓櫔櫕櫖櫗櫘櫙櫚櫜櫝櫞櫟櫠櫢櫣櫤櫥櫦櫫㰀㰁㰂㰄𣞢𣞼𣟂櫧歠殰殱𣫛氌濳瀕瀖瀗瀘瀙瀚瀛瀜瀝瀞瀟瀠瀡瀢瀣瀤瀥瀧瀨瀩瀫瀬瀭瀮㶅㶈㶊𤃉𤃡𪷿爂爄爅爆爇爈爉爊爌爍爎爕㸆𤑚𤑛牘犡犢
犣犤犥犦獸獹獺璷璽瓃瓄瓅瓆瓇瓈瓉瓊瓋㼄㼆𤪱𤪲𤪳𤪺𤪻𤪼瓣甖疆疇癟癠癡癣皩𥀬矃矄矅矆矇矈矉矊𥌎𥌑𥌓矱礗礘礙礚礛礜礝礞礟礠礡𥖹禰禱𥜝穤穥穦穧穨穩穪穫𥣞𥣡竆簬簳簴簵簶簷簸簹簺簻簼簽簾簿籀籁籂䉏䉠𥴰𥵃糩糪糫
糬糭𥽋繋繦繨繩繪繫繬繭繮繯繰繲繳繴繵繶繷繸繹繺䌠缵罊罋羃羄羅羆羶羷羸羹翽翾聸臋臔臕臗臘䑆𦢊𦢓𦤦舋舚艡艢艣艤艥艶藑藕藖藗藘藙藚藛藜藝藞藟藠藡藢藣藤藥藦藧藨藩藪藫藬藭藯藰藱藲藳藴藵䕡䕢𧁋𧁒𧁓藷藸蟕蠁蟶
蟷蟸蟹蟺蟻蟼蟽蟾蟿蠀蠂蠃蠄蠅蠆蠇蠈蠉蠊蠋蠌蠍蠏䗴蠞襖襗襘襙襚襛襜襝襞襟襠襡襢覇覈覴覵覶覷覸觵觶謿譀譁譂譃譄譆譈證譊譋譌譎譏譐譑譒譓譔譕譖譗識譙譚譛譜𧬆𧬋𧬘谶豃豷豶貚贆贇贈贉贊贋贌趪趫趬趭蹨蹪蹫蹬蹭
蹯蹰蹱蹲蹳蹴蹵蹶蹷蹸蹹蹺蹻蹼蹽蹾蹿䠦𨅏𨅝𨅯躇軂軃軄軅轍轎轏轐轑轒轓轔辭辴邊邋邌𨘻鄿酀酂醭醮醯醰醱䤑鎩鏀鏁鏂鏃鏄鏅鏆鏇鏈鏉鏊鏋鏌鏍鏎鏏鏐鏑鏒鏓鏔鏕鏖鏗鏘鏙鏚鏛鏜鏝鏞鏟鏠鏡鏢鏣鏤鏥鏦鏧鏨鏩鏪鏫鏬鏭鏮鏯
鏰鏱鏲鏹䥉䥑䥓𨫞𨫟𨫠𨫡𨫢𨫣𨫥𨫪𨫼𨬌镲镽闙闚闛關闝隴雡難䨄霦霧霨霩霪霫霬霭𩄼𩅍𩅛靡鞱鞲鞳鞴鞵鞶鞷韜韝韞韟韲韻韼顖顗願顙顚顛顜顝類䫤颤颻颼颽颾颿飀䬙䭓饃饄饅饇饈饉馦馧𩡗騔騕騖騗騘騙騚騛騜騝騞騟騠騡騢騣
騤騥騦騧騨䮝𩤯骥髂髃髅鬉鬊鬋鬌鬍鬎鬏䰄䰇鬷鯅鯔鯕鯖鯗鯘鯙鯚鯛鯜鯝鯞鯟鯠鯡鯢鯣鯤鯥鯦鯧鯨鯩鯪鯫鯬鯭鯮鯯鯰鯱鯲鯳鯴鯵䱛𩸆𩸭鯺鳓鳔鳕鳖鳗鳘鳙鳚鳛𩾌𬶭鵡鵦鵨鵩鵪鵫鵬鵭鵮鵯鵰鵱鵲鵳鵴鵵鵶鵷鵸鵹鵺鵻鵼鵽鵾鵿鶀
鶁鶂鶃鶄鶅鶆鶇鶈鶉鶊鶋鶌鶍鶎鶏鶑䳡䳢𪂇䴖鹱鹲鹸麑麒麓麔麕麖麗麳麴黀䵌黢黣黼鼃鼄䵷鼗鼭齀齁齍齖齗齘龏𪚩儶㒥匷嚱嚲嚳嚴嚵嚶嚷嚸嚹𡄯嚼㘥壣壤壥𡓨孀孁孂孃孄孅孆㜶㜷㜸𡤐𡤑𡤒𡤕孽孾寶巆巇巈巉巊巌幱𢅺廮廯廰忀
忁懸㦤懹懺𢥏攓攔攕攖攗攘攙攚㩰斅斆旟曣曤曥曦曧曨㬫𣌀朧櫨櫩櫪櫬櫮櫯櫰櫱櫲櫳櫴櫵櫶㰉㰊㰍㰑𣟕𣟖𣟗櫹瀪瀯瀰瀱瀲瀳瀴瀵瀶瀷瀸瀹瀺瀻瀼瀽瀾瀿灀灁㶏㶑𤃬𤄄灂爋爏爐爑爒爓爔爖爗爘㸊㸌𤑳𤒇𤒈犧犨𤜆獻獼獽璺瓌瓍瓎
瓏瓐瓑瓒㼇𤫀𤫇疈疉癢癥癦皪皫皾㿺盭矋矌矍矎矏矲礢礣礤礥礦礧礨礩礪礫礬禲穬穭穮穯竇競竷籃籄籅籆籇籈籉籊籋籌籍籎籏籕糮糯糰䊮繻繼繽繾繿纀纁纂纃䌦𦆭𦆮𦆲𬙋罌𦌵羺翿耀耯聹聺聻聼臖臙臚臛臜𦦵艦艧艨艩蘤藮藶藹
藺藻藼藽藾藿蘀蘁蘂蘃蘄蘅蘆蘇蘈蘉蘊蘋蘌蘍蘎蘏蘐蘑蘓蘔蘢䕧䕪䕭𧂈𧂭𧂮𧂯蘒蘛蘰蠐蠑蠒蠓蠔蠕蠖蠗蠘蠙䘀䘁襣襤襥襦襧襨覹覺覻觷觸觹譍譝譞譟譠譡譢譣譤譥警譧譨譩譪譫譬譭譮譯議譱譲䜓䜘𧬸𧬹𧬺豑𧰒贍贎贏趮躁躂躃
躄躅躆躈躉𨆉軆轕轖轗轘轙轚辮邍酁酃𨟠醲醳醴醵醶醷醸釋鏳鏵鏶鏷鏸鏺鏻鏼鏽鏾鏿鐀鐁鐂鐃鐄鐅鐆鐇鐈鐉鐊鐋鐌鐍鐎鐏鐐鐑鐒鐓鐔鐕鐖鐗鐘鐙鐚鐛鐜鐝鐞鐟鐠鐡鐢鐣鐤鐥鐦鐧鐨𨬓𨬡𨬢𨬫𨬬𨬭𨬯𨭆𨭉𨭌𨭎𨭐䦃鐯鐼镳镴闞闟闠
闡𨶹隵霮霯霰霱霳霴𩅞𩅰䩋鞸鞹鞺鞻韛韠韽韾響顟顠顡顢顣颥飁飂飃飄饊饋饌饍饎饐饑饒饓饙馨騩騪騫騬騭騮騯騰騱騲騳騴騵騶騷騸𩥅𩥇𩥈𩥉𩥝𩥪骦骧髄髆髇髈髉髊髋髌鬐鬑鬒鬓鬪鬸魐鯻鯶鯷鯸鯹鯼鯾鯿鰀鰁鰂鰃鰄鰅鰆鰇鰈
鰉鰊鰋鰌鰍鰎鰏鰐鰑鰒鰓鰔鰕鰖鰗鰘鰙鰚鰛鰠䱭𩹨䲠鱀鳜鳝鳞鳟𬶮鶐鶒鶓鶔鶕鶖鶗鶘鶙鶚鶛鶜鶝鶞鶟鶠鶡鶢鶣鶤鶥鶦鶧鶨鶩鶪鶫䳭𪂹𪃡𪃭𪃳𪃸䴗鶿鹹麘麙麚麛麵𪍑黁𪎩䵍黤黥黦黧黨黩黪𪑛鼍鼮鼯鼰𪗋齙齚齛齝齞齟齠齡齣龑儷
儸儹儺㒧兤劗劘𠠬卛嚺嚻嚽嚾嚿囀囁囂囃囄𡄻𡄽𡅅𡅈𡅏壦𡓽夔孇孈孉㜹𡤜寷屬巋巍巏巐㠦廱忂懼懽懾攑攛攜攝𢹸斕曩𣌊朇櫸櫺櫻櫼櫽櫾櫿欀欁欂欃欄欅欌㰕殲灃灄灅灆灇灈灉灊灋灌灍灏灐𤄏𤄙爙爚爛㸍𤒹爝獾瓓瓔瓖𤫉𤫊𤫑甗
癧癨癩癪癫㿗皬𤾸矐矑矒矓礭礮礯礰礱礲礳礴𥗕𥗛𥜥𥤃竃竈竉籖籐籑籒籓籔䉪𥶙糲纄纅纆纇纈纉纊纋續纍纎纏纐罍羻羼䎚耰臝艪藔蘕蘖蘗蘘蘙蘚蘜蘝蘞蘟蘠蘡蘣蘥蘦蘧蘨蘩蘪蘫蘭蘮蘯䕷𧃍𧃒𧃸𧄉𧄌蠚蠛蠜蠝蠟蠠蠡蠢蠣蠤䘂䘃
蠩蠫衊襩襪襫襬襭襮覼覽觺譅譳譴譵譶護譸譹譺譻譼譽𧭈贐贑贒贓贔赣趯趰躊躋躌躍躎躏𨆯𨆼軇轛轜轝轞轟辯邎酄酅酆醹醺醻鏴鐩鐪鐫鐬鐭鐮鐰鐱鐲鐳鐴鐵鐶鐷鐸鐹鐺鐻鐽鐾鐿鑀鑁䥥𨭣𨭤𨭥𨭦𨭬𨮏闢闣闤闥闦雤露霵霶霷霸霹
霺霻靧鞼鞽鞾鞿韡韢䪤𩐿顤顥顦顧顨颦飅飆飇飈飉飊飜饏饖饗饘馩騹騺騻騼騽騾騿驀驁驂驃驄驅驆驇龭髍髎髏鬔鬕鬖鬗鬘鬹鬺魑魒魓魔鰜鰝鰞鰟鰡鰢鰣鰤鰥鰦鰧鰨鰩鰪鰫鰬鰭鰮鰯鰰䱷䱻䱽𩺬䲢䲣鳠鳡鳢鳣鶬鶭鶮鶯鶰鶱鶲鶳鶴
鶵鶶鶷鶸鶹鶺鶻鶼鶽鶾鷀鷁鷂鷃鷄鷅鷆鷇鷈鷉鷊鷌鷍鷎鷏𪃾𪄇𪄣䴘鹺鹻麜麝䵎黫黬黭黮黯鼅鼘鼙鼚鼛鼱齎齜齤齥齦齧齨齩𪘁𬺓龒龝龡亹儻儼𠑥𠥹囅囆囇囈囉囊囋囎㘘圝奱孊孋孌㜺𡤢𡤧孿巎巑巒巓巔巕巗廲彎彲懿戂𢥧𢥫戵攞攟
攠攡攢攤攦攧𢺋𣀳㬬㬭櫷欆欇欈欉權欋欍欎㰘歡氍灑灒灔灕灖灗灘𤄿𤅀𤅄爜爞爟爠犩獿玀瓕瓗瓘瓙瓤疊癬癭癮𤼎皭礵䃸𥗠禳禴穰穱竊竸籗籘籙籚籛籜籝籟籠籡𥶹糱糴纑纒䌫𦇝罎罏𦉡羇耱耲聽聾臞臟𦧺艫蘬蘲蘳蘴蘵蘶蘷䕸𧄍𧄦
𧄧蠥蠦蠧蠨蠪蠬䘆襯襰襱襲覾覿𧢝觻觼譾譿讀讁讂讃讄讅䜠𧭥讆豄贕贖贗贘躐躑躒躓躔躕躖躗躚轠轡轢酇酈鑂鑃鑄鑅鑆鑇鑈鑉鑊鑋鑌鑍鑎鑏鑐鑑鑒鑓鑔鑧䥪䥭𨮙𨮜𨮝镵镶镾闧霼霽霾霿靀𩆜韀韁韂韃韣顩顪顫飋饔饕饚饛𩟔驈驉
驊驋驌驍驎驏驐驑驒驓驔驕𩦝髐髒髝鬝鬙鬚鬛鬜䰎𩯕鬫鬻魕魖鰱鰲鰳鰴鰵鰶鰷鰸鰹鰺鰻鰼鰽鰾鰿鱁鱂鱃鱄鱅鱆鱇鱈鷠䲁䲅𩺰𩻃鱉鳤鷋鷐鷑鷒鷓鷔鷕鷖鷗鷘鷙鷚鷛鷜鷝鷞鷟𪄳𪄴𪅐鷩鷵鹳鹴麞𪋟麶黐黰黱鼲鼳鼴鼵齂齪齫齬䶜龓龔
龕龢儽劙劚𠫍囌囏囐㘚壧壨𡖂奲孍巖巘巚彏戀戁戃戄攣攥攨攩攪攫㩷斖曪曫曬㬮欏欐欑欒𣠺毊灓灙灚灛灜𤅎𤅕𤅖𤅗𤅜𤅟爡爢𤒼𤓎𤓓𤓖玁玂玃瓚𤫟癯癰矔礶礷禵籞籢籣籤籥籦籧籨䉴糵纓纔纕纖臢𦣇艬蘱蘸蘹蘺蘻蘼蘽蘾蘿虀虁𧈛
蠴蠭蠮蠯蠰蠱蠲蠳襳襴襶覉觽觾讇讈讉變讋讌讍讎讏讐豅贙贚趱躘躙躛躜𨊛轣轤邏邐醼鑕鑖鑗鑘鑙鑚鑛鑜鑝鑞鑟鑠鑡鑢鑣鑤鑥鑦䥲𨮹𨯂𨯅𨯔𨯗𨯙𨯚靁䨵𩆨靨韄韅頀顬顭顮顯颧饜馪驖驗驘驙驚驛驜髑髓體髞鬞鬟鬠鱊鱋鱌鱍鱎鱏
鱐鱑鱒鱓鱔鱕鱖鱗鱘鱙鱚鱛𩻸鱪𫚭鷡鷢鷣鷤鷥鷦鷧鷨鷪鷫鷬鷭鷮鷯鷰鷱鷲鷳鷴鷶鷷鷸鷻鷼䴀𪆒𪆓𪆫麟黂黲黳黴鼆鼇鼜鼶鼷鼸鼹䶉齃齄齏齭齮齯齰齱𪘲儾𠓗囍囑囒囓𡆀壩㚁孎孏屭巙𢦀攬攭曭曮欓欔欕灝灞灟灠灡𤅡爣瓛瓥癱癲𤿂
矕矗矖礸䃺禶禷穳穲籪䉶纗罐羈羉艭艷虃虅𧅤𧅥蠵蠶蠷蠸蠹蠺衋衢襵襷𧟌讑讒讓讔讕讖贛躝躞躟躠軈醽醾醿釀釂鑨鑩鑪鑫鑬𨯧𨯨𨯩𨯪𨯫𨯬𨯵雥雦靂靃靄靅靆靇靈韆韇韈韤韥𩑈顰饝驝驞驟髕鬡鬢鬬鬭魗魘魙𩴾鱜鱝鱞鱟鱠鱡鱢鱣
鱤鱥鱦鱧鱩鱫𩼣鱰鷺鷹鷽鷾鷿鸀鸁鸂鸃鸄鸅鸆鸇鸈鸉鸊䴇䴉𪆴𪆵䴙鹼鹽麠鼞齅齆齲齳齴齵齶齷囔囕𡆇壪廳戅戆攮斸曯㬯欖欗欘欙欚欛欝灢灣爤爥爦犪𤴆矘矙矡礹籩籫籬籭籮糶纘纙纚纛臠臡虂虆虇虈虉蠻𧕴襸襹襺襻襼覊觀觿讗
讘讙豒䝄貛贜𧹍躡躢躣躤躥釁鑭鑮鑯鑰鑱鑲鑳𨯿𨰃靉顱顲饞饟馕䮽𩧃𩧉髖鬣鱨鱬鱭鱮鱯𩼰鸋鸌鸍鸎鸏鸐鸑鸒𪇟麡黌黵鼈鼉鼝鼟齇齸齹齺齻𪙊龣㔶圞㜻彠欜氎灎灤灦𤫢癳矚籯籰𥸎糳虄虪蠼讚讛𧹏趲躦躧釃釄鑴鑵鑶鑷鑸鑹鑺𨰉𨰜
𨰝靊韉驠驡驢驣䮾驥髗鱱鱲鱳鱴鱵鱶鸓鸔𪇵黶鼊𪙛龤龥𣬚灥灧灨𤅷𤅺犫糷纜纝虊蠽蠾蠿襽讜讝讞豓貜躩躪軉轥釅鑻鑼鑽鑾𨰣𨰦靋靌靍靎顳顴飌飍飝饠饡馫驤驦驧龮鬤鬮鬰鱷鱸鸕鸖鸗黷齈囖戇𢺳𣌟欞欟爧𤫩癴㿜䖅𧅵虌豔躨𨈇鑿
钀钁钂𨰫𨰰雧驨驩䯀鸘鸙鸚𪈠麢黸鼺齼齽龞爨𥩔纞虋讟钃钄䥹靏驪鬱鱹鸛鸜麷厵癵䆐籱𨰹韊饢驫𩱳鱺鸝鸞𪈳䶑灩𧖣𨤍䴐麣灪籲𨰻龖𡤻爩鱻麤龗齾齉靐龘&(一)<<<㈠&(七)<<<㈦&(三)<<<㈢&(九)<<<㈨
&(二)<<<㈡&(五)<<<㈤&(代)<<<㈹&(企)<<<㈽&(休)<<<㉁&(八)<<<㈧&(六)<<<㈥&(労)<<<㈸&(十)<<<㈩&(協)<<<㈿&(名)<<<㈴&(呼)<<<㈺
&(四)<<<㈣&(土)<<<㈯&(学)<<<㈻&(日)<<<㈰&(月)<<<㈪&(有)<<<㈲&(木)<<<㈭&(株)<<<㈱&(水)<<<㈬&(火)<<<㈫&(特)<<<㈵&(監)<<<㈼
&(社)<<<㈳&(祝)<<<㈷&(祭)<<<㉀&(自)<<<㉂&(至)<<<㉃&(財)<<<㈶&(資)<<<㈾&(金)<<<㈮&0点<<<㍘&10日<<<㏩&10月<<<㋉&10点<<<㍢
&11日<<<㏪&11月<<<㋊&11点<<<㍣&12日<<<㏫&12月<<<㋋&12点<<<㍤&13日<<<㏬&13点<<<㍥&14日<<<㏭&14点<<<㍦&15日<<<㏮&15点<<<㍧
&16日<<<㏯&16点<<<㍨&17日<<<㏰&17点<<<㍩&18日<<<㏱&18点<<<㍪&19日<<<㏲&19点<<<㍫&1日<<<㏠&1月<<<㋀&1点<<<㍙&20日<<<㏳
&20点<<<㍬&21日<<<㏴&21点<<<㍭&22日<<<㏵&22点<<<㍮&23日<<<㏶&23点<<<㍯&24日<<<㏷&24点<<<㍰&25日<<<㏸&26日<<<㏹&27日<<<㏺
&28日<<<㏻&29日<<<㏼&2日<<<㏡&2月<<<㋁&2点<<<㍚&30日<<<㏽&31日<<<㏾&3日<<<㏢&3月<<<㋂&3点<<<㍛&4日<<<㏣&4月<<<㋃&4点<<<㍜
&5日<<<㏤&5月<<<㋄&5点<<<㍝&6日<<<㏥&6月<<<㋅&6点<<<㍞&7日<<<㏦&7月<<<㋆&7点<<<㍟&8日<<<㏧&8月<<<㋇&8点<<<㍠&9日<<<㏨&9月<<<㋈
&9点<<<㍡&〔三〕<<<🉁&〔二〕<<<🉂&〔勝〕<<<🉇&〔安〕<<<🉃&〔打〕<<<🉅&〔敗〕<<<🉈&〔本〕<<<🉀&〔点〕<<<🉄&〔盗〕<<<🉆&一<<<⼀&一<<<㆒&一<<<㊀
&一<<<🈩&丁<<<㆜&七<<<㊆&三<<<㆔&三<<<㊂&三<<<🈪&上<<<㆖&上<<<㊤&下<<<㆘&下<<<㊦&丙<<<㆛&丨<<<⼁&中<<<㆗&中<<<㊥&中<<<🈭&丶<<<⼂
&丿<<<⼃&乙<<<⼄&乙<<<㆚&九<<<㊈&亅<<<⼅&二<<<⼆&二<<<㆓&二<<<㊁&二<<<🈔&五<<<㊄&亠<<<⼇&交<<<🈘&人<<<⼈&人<<<㆟&令和<<<㋿&企<<<㊭
&休<<<㊡&優<<<㊝&儿<<<⼉&入<<<⼊&八<<<⼋&八<<<㊇&六<<<㊅&冂<<<⼌&再<<<🈞&冖<<<⼍&写<<<㊢&冫<<<⼎&几<<<⼏&凵<<<⼐&刀<<<⼑&初<<<🈠
&前<<<🈜&割<<<🈹&力<<<⼒&労<<<㊘&勹<<<⼓&匕<<<⼔&匚<<<⼕&匸<<<⼖&医<<<㊩&十<<<⼗&十<<<〸&十<<<㊉&卄<<<〹&卅<<<〺&協<<<㊯&卜<<<⼘
&卩<<<⼙&印<<<㊞&厂<<<⼚&厶<<<⼛&又<<<⼜&双<<<🈒&口<<<⼝&可<<<🉑&右<<<㊨&右<<<🈮&合<<<🈴&名<<<㊔&吹<<<🈥&問<<<㉄&営<<<🈺&囗<<<⼞
&四<<<㆕&四<<<㊃&土<<<⼟&土<<<㊏&地<<<㆞&士<<<⼠&声<<<🈤&夂<<<⼡&夊<<<⼢&夕<<<⼣&多<<<🈕&夜<<<㊰&大<<<⼤&大正<<<㍽&天<<<㆝&天<<<🈗
&女<<<⼥&女<<<㊛&子<<<⼦&字<<<🈑&学<<<㊫&宀<<<⼧&宗<<<㊪&寸<<<⼨&小<<<⼩&尢<<<⼪&尸<<<⼫&屮<<<⼬&山<<<⼭&巛<<<⼮&工<<<⼯&左<<<㊧
&左<<<🈬&己<<<⼰&巾<<<⼱&干<<<⼲&平成<<<㍻&幺<<<⼳&幼<<<㉅&广<<<⼴&廴<<<⼵&廾<<<⼶&弋<<<⼷&弓<<<⼸&彐<<<⼹&彡<<<⼺&彳<<<⼻&後<<<🈝
&得<<<🉐&心<<<⼼&戈<<<⼽&戶<<<⼾&手<<<⼿&手<<<🈐&打<<<🈱&投<<<🈧&指<<<🈯&捕<<<🈨&支<<<⽀&攴<<<⽁&文<<<⽂&文<<<㉆&斗<<<⽃&料<<<🈛
&斤<<<⽄&新<<<🈟&方<<<⽅&无<<<⽆&日<<<⽇&日<<<㊐&明治<<<㍾&映<<<🈙&昭和<<<㍼&曰<<<⽈&月<<<⽉&月<<<㊊&月<<<🈷&有<<<㊒&有<<<🈶&木<<<⽊
&木<<<㊍&株<<<㊑&株式会社<<<㍿&欠<<<⽋&止<<<⽌&正<<<㊣&歹<<<⽍&殳<<<⽎&毋<<<⽏&母<<<⺟&比<<<⽐&毛<<<⽑&氏<<<⽒&气<<<⽓&水<<<⽔
&水<<<㊌&注<<<㊟&満<<<🈵&演<<<🈦&火<<<⽕&火<<<㊋&無<<<🈚&爪<<<⽖&父<<<⽗&爻<<<⽘&爿<<<⽙&片<<<⽚&牙<<<⽛&牛<<<⽜&特<<<㊕&犬<<<⽝
&玄<<<⽞&玉<<<⽟&瓜<<<⽠&瓦<<<⽡&甘<<<⽢&生<<<⽣&生<<<🈢&用<<<⽤&田<<<⽥&甲<<<㆙&申<<<🈸&男<<<㊚&疋<<<⽦&疒<<<⽧&癶<<<⽨&白<<<⽩
&皮<<<⽪&皿<<<⽫&監<<<㊬&目<<<⽬&矛<<<⽭&矢<<<⽮&石<<<⽯&示<<<⽰&社<<<㊓&祝<<<㊗&禁<<<🈲&禸<<<⽱&禾<<<⽲&秘<<<㊙&穴<<<⽳&空<<<🈳
&立<<<⽴&竹<<<⽵&箏<<<㉇&米<<<⽶&糸<<<⽷&終<<<🈡&缶<<<⽸&网<<<⽹&羊<<<⽺&羽<<<⽻&老<<<⽼&而<<<⽽&耒<<<⽾&耳<<<⽿&聿<<<⾀&肉<<<⾁
&臣<<<⾂&自<<<⾃&至<<<⾄&臼<<<⾅&舌<<<⾆&舛<<<⾇&舟<<<⾈&艮<<<⾉&色<<<⾊&艸<<<⾋&虍<<<⾌&虫<<<⾍&血<<<⾎&行<<<⾏&衣<<<⾐&襾<<<⾑
&見<<<⾒&角<<<⾓&解<<<🈖&言<<<⾔&谷<<<⾕&豆<<<⾖&豕<<<⾗&豸<<<⾘&貝<<<⾙&財<<<㊖&販<<<🈣&資<<<㊮&赤<<<⾚&走<<<⾛&走<<<🈰&足<<<⾜
&身<<<⾝&車<<<⾞&辛<<<⾟&辰<<<⾠&辵<<<⾡&遊<<<🈫&適<<<㊜&邑<<<⾢&酉<<<⾣&配<<<🈻&釆<<<⾤&里<<<⾥&金<<<⾦&金<<<㊎&長<<<⾧&門<<<⾨
&阜<<<⾩&隶<<<⾪&隹<<<⾫&雨<<<⾬&靑<<<⾭&非<<<⾮&面<<<⾯&革<<<⾰&韋<<<⾱&韭<<<⾲&音<<<⾳&頁<<<⾴&項<<<㊠&風<<<⾵&飛<<<⾶&食<<<⾷
&首<<<⾸&香<<<⾹&馬<<<⾺&骨<<<⾻&高<<<⾼&髟<<<⾽&鬥<<<⾾&鬯<<<⾿&鬲<<<⿀&鬼<<<⿁&魚<<<⿂&鳥<<<⿃&鹵<<<⿄&鹿<<<⿅&麥<<<⿆&麻<<<⿇
&黃<<<⿈&黍<<<⿉&黑<<<⿊&黹<<<⿋&黽<<<⿌&鼎<<<⿍&鼓<<<⿎&鼠<<<⿏&鼻<<<⿐&齊<<<⿑&齒<<<⿒&龍<<<⿓&龜<<<⿔&龟<<<⻳&龠<<<⿕"

end Collation

end StyleHost
